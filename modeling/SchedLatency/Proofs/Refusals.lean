import SchedLatency.Proofs.Splicing

/-! Why a line is refused. `Parts` says where a line is cut, `FieldFault` what is wrong with a field and
`Refusal` which check of a data line fails first: the number of its fields, then the fields from left to
right, then the thread. A log tells every refused line with that reason, in the order of the text. Main
statement: `refusalLog_messages`. -/
namespace SchedLatency

open Text

/-- A line cut at each of its colons. -/
inductive Parts : List Char → List (List Char) → Prop where
  | last (single : ':' ∉ part) : Parts part [part]
  | more (single : ':' ∉ part) (later : Parts rest parts) : Parts (part ++ ':' :: rest) (part :: parts)

theorem Parts.fields_eq (cut : Parts line parts) : Sample.fields line = parts := by
  induction cut with
  | last single => exact Sample.fields_of_not_mem single
  | more single _ ih => rw [Sample.fields_append _ single, ih]

theorem exists_cut (line : List Char) : ∃ parts, Parts line parts := by
  -- Each round takes the first part off, so the induction is on the length of the line.
  induction h : line.length using Nat.strongRecOn generalizing line with
  | ind n ih =>
    by_cases colon : ':' ∈ line
    · obtain ⟨part, rest, rfl, single⟩ := List.eq_append_cons_of_mem colon
      obtain ⟨parts, later⟩ := ih rest.length (by simp at h; omega) rest rfl
      exact ⟨part :: parts, .more single later⟩
    · exact ⟨[line], .last colon⟩

/-- What is wrong with a field: it is not all ASCII digits, or its value does not fit into a word. -/
inductive FieldFault : List Char → LineFault → Prop where
  | notDigits (other : field = [] ∨ ∃ c ∈ field, c.isDigit = false) :
      FieldFault field (.notNumber (String.ofList field))
  | tooLarge (nonempty : field ≠ []) (ascii : ∀ c ∈ field, c.isDigit = true)
      (large : wordLimit ≤ Nat.ofDigitChars 10 field 0) :
      FieldFault field (.badNumeral (String.ofList field) .tooLarge)

theorem readNumeral_of_digits (nonempty : digits ≠ []) (ascii : ∀ c ∈ digits, c.isDigit = true) :
    readNumeral digits =
      if Nat.ofDigitChars 10 digits 0 < wordLimit then .ok (Nat.ofDigitChars 10 digits 0)
      else .error .tooLarge := by
  cases digits with
  | nil => exact absurd rfl nonempty
  | cons c digits =>
    have read := continueNumeral_append ascii [] (by decide : 0 < wordLimit)
    rwa [List.append_nil] at read

namespace Sample

theorem readField_of_digits (nonempty : field ≠ []) (ascii : ∀ c ∈ field, c.isDigit = true) :
    readField field = (readNumeral field).mapError (.badNumeral (String.ofList field)) := by
  rw [readField, if_neg]
  simpa [nonempty] using ascii

theorem readField_of_other (other : field = [] ∨ ∃ c ∈ field, c.isDigit = false) :
    readField field = .error (.notNumber (String.ofList field)) := by
  rw [readField, if_pos]
  simpa using other

theorem readField_eq_error_iff : readField field = .error fault ↔ FieldFault field fault := by
  by_cases other : field = [] ∨ ∃ c ∈ field, c.isDigit = false
  · rw [readField_of_other other]
    constructor
    · rintro ⟨⟩
      exact .notDigits other
    · rintro (_ | ⟨nonempty, ascii, _⟩)
      · rfl
      · obtain rfl | ⟨c, member, letter⟩ := other
        · exact absurd rfl nonempty
        · cases (ascii c member).symm.trans letter
  · obtain ⟨nonempty, ascii⟩ : field ≠ [] ∧ ∀ c ∈ field, c.isDigit = true := by simpa using other
    rw [readField_of_digits nonempty ascii, readNumeral_of_digits nonempty ascii]
    split
    case isTrue fits =>
      constructor
      · rintro ⟨⟩
      · rintro (⟨other'⟩ | ⟨_, _, large⟩)
        · exact absurd other' other
        · exact absurd fits large.not_gt
    case isFalse large =>
      constructor
      · rintro ⟨⟩
        exact .tooLarge nonempty ascii (not_lt.mp large)
      · rintro (⟨other'⟩ | _)
        · exact absurd other' other
        · rfl

theorem collect_eq_error_iff {thread number latency : Except LineFault Nat} {fault : LineFault} :
    (do return ⟨← thread, ← number, ← latency⟩ : Except LineFault Sample) = .error fault ↔
      thread = .error fault ∨ (∃ t, thread = .ok t) ∧
        (number = .error fault ∨ (∃ n, number = .ok n) ∧ latency = .error fault) := by
  cases thread <;> cases number <;> cases latency <;> simp [bind, Except.bind, pure, Except.pure]

end Sample

/-- The leftmost of the fields that has a fault. -/
inductive LeftmostFault : List (List Char) → LineFault → Prop where
  | here (fault : FieldFault field f) : LeftmostFault (field :: later) f
  | later (sound : Numeral field n) (fault : LeftmostFault later f) : LeftmostFault (field :: later) f

/-- The first check of a data line that fails. White space around the fields has no part in it. -/
inductive Refusal (threads : Nat) : List Char → LineFault → Prop where
  | fieldCount (shaped : DataShaped line) (cut : Parts line parts) (other : parts.length ≠ 3) :
      Refusal threads line (.fieldCount parts.length)
  | field (shaped : DataShaped line) (cut : Parts line parts) (three : parts.length = 3)
      (fault : LeftmostFault (parts.map trim) f) : Refusal threads line f
  | noSuchThread (data : DataLine line s) (outside : threads ≤ s.thread) :
      Refusal threads line (.noSuchThread s.thread threads)

theorem leftmostFault_cons_iff : LeftmostFault (field :: later) f ↔
    Sample.readField field = .error f ∨ (∃ n, Sample.readField field = .ok n) ∧ LeftmostFault later f := by
  simp only [Sample.readField_eq_error_iff, Sample.readField_eq_ok_iff]
  constructor
  · rintro (fault | ⟨sound, fault⟩)
    · exact .inl fault
    · exact .inr ⟨⟨_, sound⟩, fault⟩
  · rintro (fault | ⟨⟨n, sound⟩, fault⟩)
    · exact .here fault
    · exact .later sound fault

theorem not_leftmostFault_nil : ¬ LeftmostFault [] f := by
  rintro ⟨⟩

/-- A line that is cut into other than three parts is not looked at further. -/
theorem Sample.readData_of_cut (cut : Parts line parts) : Sample.readData line = .error f ↔
    parts.length ≠ 3 ∧ f = .fieldCount parts.length ∨
      parts.length = 3 ∧ LeftmostFault (parts.map trim) f := by
  rw [readData, cut.fields_eq]
  rcases parts with _ | ⟨thread, _ | ⟨number, _ | ⟨latency, _ | ⟨other, more⟩⟩⟩⟩
  case cons.cons.cons.nil =>
    change (do return ⟨← readField (trim thread), ← readField (trim number), ← readField (trim latency)⟩ :
      Except LineFault Sample) = .error f ↔ _
    rw [collect_eq_error_iff]
    simp [leftmostFault_cons_iff, not_leftmostFault_nil]
  all_goals simp [eq_comm]

theorem refusal_iff : Refusal n line f ↔ DataShaped line ∧ (Sample.readData line = .error f ∨
    ∃ s, Sample.readData line = .ok s ∧ n ≤ s.thread ∧ f = .noSuchThread s.thread n) := by
  constructor
  · rintro (⟨shaped, cut, other⟩ | ⟨shaped, cut, three, fault⟩ | ⟨data, outside⟩)
    · exact ⟨shaped, .inl ((Sample.readData_of_cut cut).mpr (.inl ⟨other, rfl⟩))⟩
    · exact ⟨shaped, .inl ((Sample.readData_of_cut cut).mpr (.inr ⟨three, fault⟩))⟩
    · exact ⟨data.shaped, .inr ⟨_, (Sample.readData_eq_ok_iff_dataLine data.shaped).mpr data, outside, rfl⟩⟩
  · rintro ⟨shaped, read | ⟨s, read, outside, rfl⟩⟩
    · obtain ⟨parts, cut⟩ := exists_cut line
      obtain ⟨other, rfl⟩ | ⟨three, fault⟩ := (Sample.readData_of_cut cut).mp read
      · exact .fieldCount shaped cut other
      · exact .field shaped cut three fault
    · exact .noSuchThread ((Sample.readData_eq_ok_iff_dataLine shaped).mp read) outside

/-- A log refuses a line if some check of it fails, and for the reason of the first. -/
theorem faultOn_eq_some_iff : faultOn n line = some f ↔ Refusal n line f := by
  rw [faultOn_eq, refusal_iff]
  by_cases shaped : DataShaped line
  · rw [Sample.readLine_of_startsData (Sample.startsData_iff_dataShaped.mpr shaped)]
    cases Sample.readData line with
    | error f' => simp [shaped, Functor.map, Except.map]
    | ok s => simp [shaped, Functor.map, Except.map, eq_comm]
  · simp [Sample.readLine_of_not_dataShaped shaped, shaped]

theorem refusal?_eq (line : List Char) :
    refusal? n (String.ofList line) = (faultOn n line).map (⟨String.ofList line, ·⟩) := by
  rw [faultOn_eq, refusal?, readLine, String.toList_ofList]
  rcases Sample.readLine line with f | _ | s
  · rfl
  · rfl
  · simp only [mapError_ok]
    split <;> rfl

/-- The messages of a log on its lines: one for each refused line, with the whole line and the reason. -/
inductive RefusalLog (n : Nat) : List (List Char) → List Message → Prop where
  | nil : RefusalLog n [] []
  | passed (accepted : ∀ f, ¬ Refusal n line f) (later : RefusalLog n ls told) :
      RefusalLog n (line :: ls) told
  | refused (refusal : Refusal n line f) (later : RefusalLog n ls told) :
      RefusalLog n (line :: ls)
        (⟨.error, .log, (Error.logLine (String.ofList line) f.reason).message⟩ :: told)

theorem refusalLog_filterMap (ls : List (List Char)) : RefusalLog n ls
    ((ls.filterMap (refusal? n ∘ String.ofList)).map fun r => ⟨.error, .log, r.error.message⟩) := by
  induction ls with
  | nil => exact .nil
  | cons line ls ih =>
    have read : (refusal? n ∘ String.ofList) line = (faultOn n line).map (⟨String.ofList line, ·⟩) :=
      refusal?_eq line
    cases fault : faultOn n line with
    | none =>
      rw [fault] at read
      rw [List.filterMap_cons_none read]
      refine .passed ?_ ih
      intro f refusal
      cases fault.symm.trans (faultOn_eq_some_iff.mpr refusal)
    | some f =>
      rw [fault] at read
      rw [List.filterMap_cons_some read]
      exact .refused (faultOn_eq_some_iff.mp fault) ih

/-- The reading of a text tells its refused lines, and nothing else. -/
theorem refusalLog_messages (text : String) (n : Nat) :
    RefusalLog n (lines text.toList) (Log.parse text n).messages := by
  rw [Log.messages, (Log.accounts_parse text n).rejects, List.filterMap_map]
  exact refusalLog_filterMap (lines text.toList)

end SchedLatency
