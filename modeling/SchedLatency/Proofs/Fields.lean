import Mathlib.Data.List.TakeWhile
import SchedLatency.Sample

/-! What the reader of a line does to its parts: trimming takes white space off both ends, colons
separate the fields, and a field that passes is a numeral. White space, digits and the colon do not
meet, so the parts of a line can be told apart. -/
namespace SchedLatency

namespace Text

def Blank (s : List Char) : Prop := ∀ c ∈ s, isBlank c = true

instance : DecidablePred Blank := fun s =>
  decidable_of_iff (s.all isBlank = true) List.all_eq_true

theorem trimStart_eq_of_solid {s : List Char} (solid : ∀ c ∈ s, isBlank c = false) :
    trimStart s = s :=
  trimStart_eq_self fun c head => solid c (List.mem_of_head? head)

theorem takeWhile_append_trimStart (s : List Char) : s.takeWhile isBlank ++ trimStart s = s :=
  List.takeWhile_append_dropWhile

theorem exists_trim (s : List Char) :
    ∃ before after, Blank before ∧ Blank after ∧ s = before ++ trim s ++ after := by
  refine ⟨s.takeWhile isBlank, ((trimStart s).reverse.takeWhile isBlank).reverse, ?_, ?_, ?_⟩
  · intro c member
    exact List.mem_takeWhile_imp member
  · intro c member
    exact List.mem_takeWhile_imp (List.mem_reverse.mp member)
  · have ending : trimStart s = trim s ++ ((trimStart s).reverse.takeWhile isBlank).reverse := by
      rw [trim, trimEnd, ← List.reverse_append, takeWhile_append_trimStart, List.reverse_reverse]
    rw [List.append_assoc, ← ending, takeWhile_append_trimStart]

theorem Blank.reverse (blank : Blank w) : Blank w.reverse := by
  intro c member
  exact blank c (List.mem_reverse.mp member)

theorem Blank.trimStart_eq (blank : Blank w) : trimStart w = [] :=
  List.dropWhile_eq_nil_iff.mpr blank

theorem trimEnd_append_blank (after : Blank w) : trimEnd (s ++ w) = trimEnd s := by
  rw [trimEnd, List.reverse_append, trimStart_append_of_blank after.reverse, trimEnd]

theorem trim_append_blank (after : Blank w) : trim (s ++ w) = trim s := by
  by_cases empty : trimStart s = []
  · have blank : Blank s := List.dropWhile_eq_nil_iff.mp empty
    rw [trim, trimStart_append_of_blank blank, after.trimStart_eq, trim, empty]
  · have kept : trimStart (s ++ w) = trimStart s ++ w := by
      rw [trimStart, List.dropWhile_append, if_neg (by simpa [trimStart] using empty), trimStart]
    rw [trim, kept, trimEnd_append_blank after, trim]

theorem trim_padded (before : Blank w) (solid : ∀ c ∈ s, isBlank c = false) (after : Blank w') :
    trim (w ++ s ++ w') = s := by
  have backwards : ∀ c ∈ s.reverse, isBlank c = false := by simpa using solid
  rw [trim_append_blank after, trim, trimStart_append_of_blank before, trimStart_eq_of_solid solid,
    trimEnd, trimStart_eq_of_solid backwards, List.reverse_reverse]

/-- Where runs of ten decimal digits begin, apart from white space. -/
theorem decimalZeros_apart : ∀ first ∈ decimalZeros,
    first = 0x30 ∨ 0xA0 < first ∧ first + 10 ≤ 0x1680 ∨ 0x1680 < first ∧ first + 10 ≤ 0x2000 ∨
      0x3000 < first := by
  decide

theorem not_isBlank_of_isDecimalDigit {c : Char} (digit : isDecimalDigit c = true) :
    isBlank c = false := by
  simp only [isDecimalDigit, List.any_eq_true, Bool.and_eq_true, decide_eq_true_eq] at digit
  obtain ⟨first, member, low, high⟩ := digit
  have apart := decimalZeros_apart first member
  apply Bool.eq_false_iff.mpr
  simp only [isBlank, ne_eq, Bool.or_eq_true, Bool.and_eq_true, decide_eq_true_eq, beq_iff_eq]
  omega

theorem colon_not_blank {w : List Char} (blank : Blank w) : ':' ∉ w := by
  intro member
  exact absurd (blank ':' member) (by decide)

theorem colon_not_digits {d : List Char} (digits : ∀ c ∈ d, isDecimalDigit c = true) : ':' ∉ d := by
  intro member
  exact absurd (digits ':' member) (by decide)

/-- ASCII digits whose value fits into a word. Leading zeros are allowed. -/
structure Numeral (digits : List Char) (n : Nat) : Prop where
  nonempty : digits ≠ []
  ascii : ∀ c ∈ digits, c.isDigit = true
  value : n = Nat.ofDigitChars 10 digits 0
  fits : n < wordLimit

theorem readNumeral_iff : readNumeral digits = .ok n ↔ Numeral digits n := by
  rw [readNumeral_eq_ok_iff]
  constructor
  · rintro ⟨nonempty, ascii, value, fits⟩
    exact ⟨nonempty, ascii, value, fits⟩
  · rintro ⟨nonempty, ascii, value, fits⟩
    exact ⟨nonempty, ascii, value, fits⟩

namespace Numeral
variable (numeral : Numeral digits n)
include numeral

theorem decimal : ∀ c ∈ digits, isDecimalDigit c = true :=
  fun c member => isDecimalDigit_of_isDigit c (numeral.ascii c member)

theorem solid : ∀ c ∈ digits, isBlank c = false :=
  fun c member => not_isBlank_of_isDecimalDigit (numeral.decimal c member)

theorem trim_padded (before : Blank w) (after : Blank w') : trim (w ++ digits ++ w') = digits :=
  Text.trim_padded before numeral.solid after

theorem colon_not_padded (before : Blank w) (after : Blank w') : ':' ∉ w ++ digits ++ w' := by
  simp only [List.mem_append, not_or]
  exact ⟨⟨colon_not_blank before, colon_not_digits numeral.decimal⟩, colon_not_blank after⟩

end Numeral
end Text

namespace Sample
open Text

theorem fields_cons (c : Char) (s : List Char) : fields (c :: s) = cutField c (fields s) := rfl

theorem fields_ne_nil (s : List Char) : fields s ≠ [] := by
  cases s with
  | nil => simp [fields]
  | cons c s =>
    rw [fields_cons]
    cases fields s with
    | nil => simp [cutField]
    | cons field more => by_cases colon : c = ':' <;> simp [cutField, colon]

theorem fields_of_not_mem (single : ':' ∉ field) : fields field = [field] := by
  induction field with
  | nil => rfl
  | cons c field ih =>
    have other : c ≠ ':' := by rintro rfl; simp at single
    rw [fields_cons, ih (by simp_all)]
    simp [cutField, other]

theorem fields_append (rest : List Char) (single : ':' ∉ field) :
    fields (field ++ ':' :: rest) = field :: fields rest := by
  induction field with
  | nil =>
    rw [List.nil_append, fields_cons]
    cases h : fields rest with
    | nil => exact absurd h (fields_ne_nil rest)
    | cons field more => simp [cutField]
  | cons c field ih =>
    have other : c ≠ ':' := by rintro rfl; simp at single
    rw [List.cons_append, fields_cons, ih (by simp_all)]
    simp [cutField, other]

theorem exists_fields_append (s : List Char) (single : ':' ∉ w) :
    ∃ init last, fields s = init ++ [last] ∧ fields (s ++ w) = init ++ [last ++ w] := by
  induction s with
  | nil => exact ⟨[], [], rfl, fields_of_not_mem single⟩
  | cons c s ih =>
    obtain ⟨init, last, cut, longer⟩ := ih
    have step : fields (c :: s) = cutField c (init ++ [last]) := by
      rw [fields_cons, cut]
    have step' : fields (c :: s ++ w) = cutField c (init ++ [last ++ w]) := by
      rw [List.cons_append, fields_cons, longer]
    rw [step, step']
    by_cases colon : c = ':'
    · refine ⟨[] :: init, last, ?_, ?_⟩ <;> cases init <;> simp [cutField, colon]
    · cases init with
      | nil => exact ⟨[], c :: last, by simp [cutField, colon], by simp [cutField, colon]⟩
      | cons first more =>
        exact ⟨(c :: first) :: more, last, by simp [cutField, colon], by simp [cutField, colon]⟩

theorem fields_eq_singleton (h : fields s = [field]) : s = field ∧ ':' ∉ field := by
  by_cases colon : ':' ∈ s
  · obtain ⟨first, rest, rfl, single⟩ := List.eq_append_cons_of_mem colon
    rw [fields_append rest single] at h
    exact absurd (List.cons.inj h).2 (fields_ne_nil rest)
  · rw [fields_of_not_mem colon] at h
    obtain rfl : s = field := (List.cons.inj h).1
    exact ⟨rfl, colon⟩

theorem fields_eq_pair_iff :
    fields s = [first, second] ↔ s = first ++ ':' :: second ∧ ':' ∉ first ∧ ':' ∉ second := by
  constructor
  · intro h
    by_cases colon : ':' ∈ s
    · obtain ⟨before, rest, rfl, single⟩ := List.eq_append_cons_of_mem colon
      rw [fields_append rest single] at h
      obtain ⟨rfl, later⟩ := List.cons.inj h
      obtain ⟨rfl, last⟩ := fields_eq_singleton later
      exact ⟨rfl, single, last⟩
    · rw [fields_of_not_mem colon] at h
      simp at h
  · rintro ⟨rfl, before, after⟩
    rw [fields_append second before, fields_of_not_mem after]

/-- Trimmed and read, a field that passes is a numeral. -/
theorem readField_eq_ok_iff : readField field = .ok n ↔ Numeral field n := by
  by_cases plain : field.isEmpty || !field.all Char.isDigit
  · have refused : ¬ Numeral field n := by
      rintro ⟨nonempty, ascii, _, _⟩
      simp [nonempty] at plain
      obtain ⟨c, member, other⟩ := plain
      simp [ascii c member] at other
    simp [readField, plain, refused]
  · rw [← readNumeral_iff, readField, if_neg plain]
    cases readNumeral field <;> simp

end Sample
end SchedLatency
