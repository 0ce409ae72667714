import SchedLatency.Log
import SchedLatency.Proofs.Fields

/-! Which texts are data lines. `DataShaped` says how a line claims to hold a sample and `DataLine`
how it holds one; a line that claims one and holds none is a fault. Main statement:
`readLine_language`. -/
namespace SchedLatency

open Text

/-- White space, decimal digits of any script, at least one, and a colon begin the line. -/
def DataShaped (line : List Char) : Prop :=
  ∃ blank digits rest, line = blank ++ digits ++ ':' :: rest ∧ Blank blank ∧ digits ≠ [] ∧
    ∀ c ∈ digits, isDecimalDigit c = true

/-- White space may stand before, between and after the numbers, but not before the first colon. -/
inductive DataLine : List Char → Sample → Prop where
  | intro (before : Blank w₀) (thread : Numeral d₁ t) (beforeNumber : Blank w₁) (number : Numeral d₂ n)
      (afterNumber : Blank w₂) (beforeLatency : Blank w₃) (latency : Numeral d₃ l)
      (after : Blank w₄) :
      DataLine (w₀ ++ d₁ ++ ':' :: (w₁ ++ d₂ ++ w₂ ++ ':' :: (w₃ ++ d₃ ++ w₄))) ⟨t, n, l⟩

namespace Sample

theorem startsData_iff_dataShaped : startsData line = true ↔ DataShaped line := by
  simp only [startsData, Bool.and_eq_true, Bool.not_eq_true', List.isEmpty_eq_false_iff,
    beq_iff_eq, List.head?_eq_some_iff]
  constructor
  · rintro ⟨nonempty, rest, colon⟩
    refine ⟨line.takeWhile isBlank, _, rest, ?_, fun c => List.mem_takeWhile_imp, nonempty,
      fun c => List.mem_takeWhile_imp⟩
    rw [List.append_assoc, ← colon, List.takeWhile_append_dropWhile, takeWhile_append_trimStart]
  · rintro ⟨blank, digits, rest, rfl, white, nonempty, decimal⟩
    have body : trimStart (blank ++ digits ++ ':' :: rest) = digits ++ ':' :: rest := by
      obtain ⟨d, more, rfl⟩ := List.exists_cons_of_ne_nil nonempty
      rw [List.append_assoc, trimStart_append_of_blank white]
      apply trimStart_eq_self
      intro c head
      obtain rfl : d = c := Option.some.inj head
      exact not_isBlank_of_isDecimalDigit (decimal d List.mem_cons_self)
    have colon : isDecimalDigit ':' = false := by decide
    rw [body, List.takeWhile_append_of_pos decimal, List.dropWhile_append_of_pos decimal]
    simp [colon, nonempty]

instance : DecidablePred DataShaped := fun line =>
  decidable_of_iff (startsData line = true) startsData_iff_dataShaped

/-- The first field of a data line ends with its digits, so no white space is trimmed after them. -/
theorem map_trim_fields (blank : Blank w) (decimal : ∀ c ∈ d, isDecimalDigit c = true) :
    (fields (w ++ d ++ ':' :: rest)).map trim = d :: (fields rest).map trim := by
  have single : ':' ∉ w ++ d := by
    simp only [List.mem_append, not_or]
    exact ⟨colon_not_blank blank, colon_not_digits decimal⟩
  have solid : ∀ c ∈ d, isBlank c = false :=
    fun c member => not_isBlank_of_isDecimalDigit (decimal c member)
  have trimmed : trim (w ++ d) = d := by
    have nothing : Blank [] := by intro c member; cases member
    simpa using trim_padded blank solid nothing
  rw [fields_append rest single, List.map_cons, trimmed]

theorem collect_eq_ok_iff {thread number latency : Except LineFault Nat} {s : Sample} :
    (do return ⟨← thread, ← number, ← latency⟩ : Except LineFault Sample) = .ok s ↔
      thread = .ok s.thread ∧ number = .ok s.number ∧ latency = .ok s.latency := by
  obtain ⟨t, n, l⟩ := s
  cases thread <;> cases number <;> cases latency <;>
    simp [bind, Except.bind, pure, Except.pure]

theorem readData_eq_ok_iff (blank : Blank w) (decimal : ∀ c ∈ d, isDecimalDigit c = true) :
    readData (w ++ d ++ ':' :: rest) = .ok s ↔ Numeral d s.thread ∧ ∃ second third,
      fields rest = [second, third] ∧ Numeral (trim second) s.number ∧
        Numeral (trim third) s.latency := by
  rw [readData, map_trim_fields blank decimal]
  match h : fields rest with
  | [second, third] =>
    change (do return ⟨← readField d, ← readField (trim second), ← readField (trim third)⟩) =
      Except.ok s ↔ _
    simp only [collect_eq_ok_iff, readField_eq_ok_iff]
    constructor
    · rintro ⟨thread, number, latency⟩
      exact ⟨thread, second, third, rfl, number, latency⟩
    · rintro ⟨thread, _, _, same, number, latency⟩
      cases same
      exact ⟨thread, number, latency⟩
  | [] | [_] | _ :: _ :: _ :: _ => simp

/-- Among the lines that claim to hold a sample, those that hold one are read. -/
theorem readData_eq_ok_iff_dataLine (shaped : DataShaped line) :
    readData line = .ok s ↔ DataLine line s := by
  constructor
  · intro read
    obtain ⟨blank, digits, rest, rfl, white, _, decimal⟩ := shaped
    obtain ⟨thread, second, third, cut, number, latency⟩ := (readData_eq_ok_iff white decimal).mp read
    obtain ⟨rfl, _, _⟩ := fields_eq_pair_iff.mp cut
    obtain ⟨w₁, w₂, beforeNumber, afterNumber, second_eq⟩ := exists_trim second
    obtain ⟨w₃, w₄, beforeLatency, after, third_eq⟩ := exists_trim third
    rw [second_eq, third_eq]
    exact .intro white thread beforeNumber number afterNumber beforeLatency latency after
  · rintro ⟨before, thread, beforeNumber, number, afterNumber, beforeLatency, latency, after⟩
    apply (readData_eq_ok_iff before thread.decimal).mpr
    refine ⟨thread, _, _, fields_eq_pair_iff.mpr ⟨rfl, ?_, ?_⟩, ?_, ?_⟩
    · exact number.colon_not_padded beforeNumber afterNumber
    · exact latency.colon_not_padded beforeLatency after
    · rwa [number.trim_padded beforeNumber afterNumber]
    · rwa [latency.trim_padded beforeLatency after]

end Sample

theorem DataLine.shaped (data : DataLine line s) : DataShaped line := by
  cases data with
  | intro before thread => exact ⟨_, _, _, rfl, before, thread.nonempty, thread.decimal⟩

namespace Sample

theorem readLine_of_not_dataShaped (banner : ¬ DataShaped line) : readLine line = .ok none := by
  apply readLine_of_not_startsData
  rwa [← startsData_iff_dataShaped, Bool.not_eq_true] at banner

theorem readLine_of_dataLine (data : DataLine line s) : readLine line = .ok (some s) := by
  rw [readLine_of_startsData (startsData_iff_dataShaped.mpr data.shaped),
    (readData_eq_ok_iff_dataLine data.shaped).mpr data]
  rfl

theorem readLine_of_fault (shaped : DataShaped line) (bare : ∀ s, ¬ DataLine line s) :
    ∃ fault, readLine line = .error fault := by
  rw [readLine_of_startsData (startsData_iff_dataShaped.mpr shaped)]
  cases read : readData line with
  | ok s => exact absurd ((readData_eq_ok_iff_dataLine shaped).mp read) (bare s)
  | error fault => exact ⟨fault, rfl⟩

end Sample

theorem dataShaped_append_blank (after : Blank w) : DataShaped (line ++ w) ↔ DataShaped line := by
  constructor
  · rintro ⟨blank, digits, rest, same, white, nonempty, decimal⟩
    -- No colon lies in the white space at the end, so the whole claim is in the line itself.
    have outside : ':' ∉ w := colon_not_blank after
    rcases List.append_eq_append_iff.mp same with ⟨more, _, rfl⟩ | ⟨more, rfl, colon⟩
    · simp at outside
    · cases more with
      | nil =>
        rw [List.nil_append] at colon
        exact absurd (colon ▸ List.mem_cons_self) outside
      | cons c more =>
        obtain ⟨rfl, _⟩ := List.cons.inj colon
        exact ⟨blank, digits, more, rfl, white, nonempty, decimal⟩
  · rintro ⟨blank, digits, rest, rfl, white, nonempty, decimal⟩
    exact ⟨blank, digits, rest ++ w, by simp, white, nonempty, decimal⟩

theorem Sample.readLine_append_blank (after : Blank w) : readLine (line ++ w) = readLine line := by
  have claims : startsData (line ++ w) = startsData line := by
    rw [Bool.eq_iff_iff, startsData_iff_dataShaped, startsData_iff_dataShaped,
      dataShaped_append_blank after]
  obtain ⟨init, last, cut, longer⟩ := exists_fields_append line (colon_not_blank after)
  have fields : (fields (line ++ w)).map trim = (fields line).map trim := by
    rw [cut, longer, List.map_append, List.map_append, List.map_singleton, List.map_singleton,
      trim_append_blank after]
  rw [readLine, readLine, claims, readData, readData, fields]

theorem DataLine.unique (data : DataLine line s) (other : DataLine line s') : s = s' := by
  have read := (Sample.readLine_of_dataLine data).symm.trans (Sample.readLine_of_dataLine other)
  exact Option.some.inj (Except.ok.inj read)

theorem readLine_cases (line : String) :
    (¬ DataShaped line.toList ∧ readLine line = .ok none) ∨
    (∃ s, DataLine line.toList s ∧ readLine line = .ok (some s)) ∨
    (DataShaped line.toList ∧ (∀ s, ¬ DataLine line.toList s) ∧
      ∃ fault, readLine line = .error ⟨line, fault⟩) := by
  by_cases shaped : DataShaped line.toList
  · by_cases held : ∃ s, DataLine line.toList s
    · obtain ⟨s, data⟩ := held
      exact .inr (.inl ⟨s, data, by rw [readLine, Sample.readLine_of_dataLine data, mapError_ok]⟩)
    · have bare : ∀ s, ¬ DataLine line.toList s := fun s data => held ⟨s, data⟩
      obtain ⟨fault, read⟩ := Sample.readLine_of_fault shaped bare
      exact .inr (.inr ⟨shaped, bare, fault, by rw [readLine, read, mapError_error]⟩)
  · exact .inl ⟨shaped, by rw [readLine, Sample.readLine_of_not_dataShaped shaped, mapError_ok]⟩

/-- What is read from a line, exactly: nothing, its sample, or a fault that quotes the whole line. -/
theorem readLine_language (line : String) :
    (readLine line = .ok none ↔ ¬ DataShaped line.toList) ∧
    (∀ s, readLine line = .ok (some s) ↔ DataLine line.toList s) ∧
    ((∃ reason, (readLine line).mapError Reject.error = .error (.logLine line reason)) ↔
      DataShaped line.toList ∧ ∀ s, ¬ DataLine line.toList s) := by
  rcases readLine_cases line with ⟨banner, read⟩ | ⟨s, data, read⟩ | ⟨shaped, bare, fault, read⟩
  · have bare : ∀ s, ¬ DataLine line.toList s := fun s data => banner data.shaped
    simp [read, banner, bare]
  · have shaped := data.shaped
    refine ⟨by simp [read, shaped], ?_, ?_⟩
    · intro s'
      rw [read]
      constructor
      · rintro ⟨⟩
        exact data
      · intro other
        rw [data.unique other]
    · have held : ¬ ∀ s, ¬ DataLine line.toList s := fun bare => bare s data
      simp [read, held]
  · refine ⟨by simp [read, shaped], by simp [read, bare], ?_⟩
    rw [read]
    exact ⟨fun _ => ⟨shaped, bare⟩, fun _ => ⟨fault.reason, rfl⟩⟩

/-- Digits of another script claim a sample and are refused. -/
example : readLine "\u0663: 0: 5" = .error ⟨"\u0663: 0: 5", .notNumber "\u0663"⟩ := by decide

end SchedLatency
