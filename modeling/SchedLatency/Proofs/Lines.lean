import SchedLatency.Text.Lines

/-! What the lines of a text are. `Lined` says it without cutting, and `lined_iff` that `lines` finds
the one list that it allows. Texts end lines with line feeds alone or with carriage returns before
them; a last line may go without. -/
namespace SchedLatency.Text

/-- A carriage return directly before a line feed belongs to the ending, any other to its line. What
follows the last line feed is a line unless nothing follows. -/
inductive Lined : List Char → List (List Char) → Prop where
  | empty : Lined [] []
  | unended : line ≠ [] → '\n' ∉ line → Lined line [line]
  | lf : '\n' ∉ line → line.getLast? ≠ some '\r' → Lined rest more →
      Lined (line ++ '\n' :: rest) (line :: more)
  | crlf : '\n' ∉ line → Lined rest more → Lined (line ++ '\r' :: '\n' :: rest) (line :: more)

theorem pieces_unended (line : List Char) (nonempty : line ≠ []) (single : '\n' ∉ line) :
    pieces line = [line] := by
  induction line with
  | nil => contradiction
  | cons c line ih =>
    have other : c ≠ '\n' := by rintro rfl; simp at single
    cases line with
    | nil => simp [pieces_cons, cut]
    | cons d line =>
      rw [pieces_cons, ih (by simp) (by simp_all)]
      simp [cut, other]

theorem pieces_ended (line rest : List Char) (single : '\n' ∉ line) :
    pieces (line ++ '\n' :: rest) = (line ++ ['\n']) :: pieces rest := by
  induction line with
  | nil => cases h : pieces rest <;> simp [pieces_cons, cut, h]
  | cons c line ih =>
    have other : c ≠ '\n' := by rintro rfl; simp at single
    rw [List.cons_append, pieces_cons, ih (by simp_all)]
    simp [cut, other]

theorem Lined.lines_eq (lined : Lined text ls) : lines text = ls := by
  induction lined with
  | empty => rfl
  | unended nonempty single => simp [lines, pieces_unended _ nonempty single, chomp_open _ single]
  | @lf line rest more single last _ ih =>
    rw [← ih]
    simp [lines, pieces_ended line rest single, chomp_lf line last]
  | @crlf line rest more single _ ih =>
    have ending : line ++ '\r' :: '\n' :: rest = (line ++ ['\r']) ++ '\n' :: rest := by simp
    rw [← ih, lines, ending, pieces_ended _ rest (by simp [single]), List.map_cons]
    simp [lines]

theorem lined_ended (line : List Char) (single : '\n' ∉ line) (lined : Lined rest more) :
    ∃ ls, Lined (line ++ '\n' :: rest) ls := by
  by_cases last : line.getLast? = some '\r'
  · obtain ⟨front, rfl⟩ := List.getLast?_eq_some_iff.mp last
    have inner : '\n' ∉ front := by simp_all
    refine ⟨front :: more, ?_⟩
    simpa using Lined.crlf inner lined
  · exact ⟨line :: more, .lf single last lined⟩

theorem exists_lined (text : List Char) : ∃ ls, Lined text ls := by
  -- Each round takes the first line off, so the induction is on the length of the text.
  induction h : text.length using Nat.strongRecOn generalizing text with
  | ind n ih =>
    by_cases newline : '\n' ∈ text
    · obtain ⟨line, rest, rfl, single⟩ := List.eq_append_cons_of_mem newline
      obtain ⟨more, lined⟩ := ih rest.length (by simp at h; omega) rest rfl
      exact lined_ended line single lined
    · cases text with
      | nil => exact ⟨[], .empty⟩
      | cons c text => exact ⟨[c :: text], .unended (by simp) newline⟩

theorem lined_lines (text : List Char) : Lined text (lines text) := by
  obtain ⟨ls, lined⟩ := exists_lined text
  rwa [lined.lines_eq]

/-- The lines of a text are the only list that fits it. -/
theorem lined_iff : Lined text ls ↔ ls = lines text :=
  ⟨fun lined => lined.lines_eq.symm, fun h => h ▸ lined_lines text⟩

theorem newline_not_mem_of_mem_lines {line : List Char} (member : line ∈ lines text) :
    '\n' ∉ line := by
  have lined := lined_lines text
  generalize lines text = ls at lined member
  induction lined with
  | empty => simp at member
  | unended _ single => simpa [List.mem_singleton.mp member] using single
  | lf single _ _ ih | crlf single _ ih =>
    rcases List.mem_cons.mp member with rfl | later
    · exact single
    · exact ih later

end SchedLatency.Text
