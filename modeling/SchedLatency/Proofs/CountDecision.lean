import Mathlib.Logic.Relation
import SchedLatency.Proofs.CountLine
import SchedLatency.Proofs.Splicing

/-! One line decides how many processors are counted. `Decided` says what the first count line, or the
lack of one, comes to. Lines that count nothing may come and go anywhere in the output, and any lines
after the one that decides. Main statement: `readCount_decided`. -/
namespace SchedLatency

namespace Text

/-- Why digits are no numeral. Of a character that is no ASCII digit and a value too large for a word,
the one that comes first from the left is told. -/
inductive BadNumeral : List Char → NumeralFault → Prop where
  | notDigit (ascii : ∀ d ∈ front, d.isDigit = true) (fits : Nat.ofDigitChars 10 front 0 < wordLimit)
      (other : c.isDigit = false) : BadNumeral (front ++ c :: rest) .notDigit
  | tooLarge (ascii : ∀ d ∈ front, d.isDigit = true)
      (large : wordLimit ≤ Nat.ofDigitChars 10 front 0) : BadNumeral (front ++ rest) .tooLarge

theorem readNumeral_eq_error_iff (nonempty : digits ≠ []) :
    readNumeral digits = .error fault ↔ BadNumeral digits fault := by
  have read : readNumeral digits = continueNumeral 0 digits := by
    cases digits with
    | nil => contradiction
    | cons c digits => rfl
  have start : 0 < wordLimit := by decide
  rw [read]
  constructor
  · intro refused
    have ascii : ∀ d ∈ digits.takeWhile Char.isDigit, d.isDigit = true := fun d => List.mem_takeWhile_imp
    have cut : digits.takeWhile Char.isDigit ++ digits.dropWhile Char.isDigit = digits :=
      List.takeWhile_append_dropWhile
    rw [← cut, continueNumeral_append ascii _ start] at refused
    rw [← cut]
    split at refused
    case isFalse large =>
      obtain rfl := Except.error.inj refused
      exact .tooLarge ascii (Nat.le_of_not_lt large)
    case isTrue fits =>
      cases after : digits.dropWhile Char.isDigit with
      | nil => simp [after, continueNumeral] at refused
      | cons c rest =>
        have other : c.isDigit = false := by
          have stop := List.head?_dropWhile_not Char.isDigit digits
          simpa [after] using stop
        rw [after, continueNumeral, if_neg (by simp [other])] at refused
        obtain rfl := Except.error.inj refused
        exact .notDigit ascii fits other
  · rintro (⟨ascii, fits, other⟩ | ⟨ascii, large⟩)
    · rw [continueNumeral_append ascii _ start, if_pos fits, continueNumeral, if_neg (by simp [other])]
    · rw [continueNumeral_append ascii _ start, if_neg (by omega)]

/-- A text without and with a line more, and what comes before that line in both. -/
inductive Inserted (line : List Char) : List Char → List Char → List Char → Prop where
  | first : Inserted line [] text (line ++ '\n' :: text)
  | between : Inserted line before (before ++ '\n' :: after) (before ++ '\n' :: (line ++ '\n' :: after))
  | last : Inserted line before before (before ++ '\n' :: line)

/-- What a lenient reading makes of the line goes where the line goes. -/
theorem Inserted.filterMap_lines {f : List Char → Option α} (lenient : Lenient f)
    (inserted : Inserted line before text text') (single : '\n' ∉ line) :
    ∃ rest, (lines text).filterMap f = (lines before).filterMap f ++ rest ∧
      (lines text').filterMap f = (lines before).filterMap f ++ ((f line).toList ++ rest) := by
  cases inserted with
  | first =>
    refine ⟨(lines text).filterMap f, by simp, ?_⟩
    rw [filterMap_lines_ended lenient text single]
    simp
  | @between _ after =>
    refine ⟨(lines after).filterMap f, filterMap_lines_splice lenient before after, ?_⟩
    rw [filterMap_lines_splice lenient, filterMap_lines_ended lenient after single]
  | last =>
    refine ⟨[], by simp, ?_⟩
    rw [filterMap_lines_splice lenient, filterMap_lines_unended lenient single, List.append_nil]

end Text

namespace Lscpu

open Text

/-- A line that is put after the last one may turn that one's carriage return into an ending. -/
theorem countLine_append_carriageReturn : CountLine (line ++ ['\r']) digits ↔ CountLine line digits := by
  constructor
  · intro counts
    generalize ended : line ++ ['\r'] = text at counts
    cases counts with
    | @intro w _ w' before nonempty decimal after =>
    rcases List.eq_nil_or_concat w' with rfl | ⟨w', c, rfl⟩
    -- Without white space at the end, the last of the digits would be the carriage return.
    · exfalso
      rw [List.append_nil, ← List.dropLast_concat_getLast nonempty] at ended
      simp only [← List.append_assoc] at ended
      obtain ⟨_, last⟩ := List.append_inj' ended rfl
      have digit := decimal _ (List.getLast_mem nonempty)
      rw [← List.singleton_inj.mp last] at digit
      revert digit
      decide
    · simp only [List.concat_eq_append, ← List.append_assoc] at ended
      obtain ⟨rfl, _⟩ := List.append_inj' ended rfl
      simp only [List.append_assoc]
      exact .intro before nonempty decimal fun d member => after d (by simp [member])
  · rintro ⟨before, nonempty, decimal, after⟩
    simp only [List.append_assoc]
    refine .intro before nonempty decimal fun d member => ?_
    rcases List.mem_append.mp member with blank | last
    · exact after d blank
    · rw [List.mem_singleton.mp last]
      decide

theorem countDigits?_lenient : Lenient countDigits? where
  empty := rfl
  carriageReturn line := by
    apply Option.ext
    intro digits
    rw [countDigits?_eq_some_iff, countDigits?_eq_some_iff,
      countLine_append_carriageReturn]

/-- What an output comes to. The first count line decides, whether its digits are a numeral or not. -/
inductive Decided (output : String) : Except Error Nat → Prop where
  | counted (first : FirstCount (lines output.toList) digits) (numeral : Numeral digits n) :
      Decided output (.ok n)
  | refused (first : FirstCount (lines output.toList) digits) (bad : BadNumeral digits fault) :
      Decided output
        (.error (.topology s!"bad cpu count {quote (String.ofList digits)}: {fault.text}"))
  | uncounted (silent : ∀ line ∈ lines output.toList, ∀ digits, ¬ CountLine line digits) :
      Decided output (.error (.topology
        s!"no CPU(s) line in lscpu output: {quote (String.ofList (trim output.toList))}"))

theorem FirstCount.nonempty (first : FirstCount ls digits) : digits ≠ [] := by
  obtain ⟨_, _, _, _, _, ⟨_, nonempty, _, _⟩⟩ := first
  exact nonempty

/-- Of two texts the second has a line more. That line counts nothing or comes after one that counts. -/
inductive Extended (text text' : List Char) : Prop where
  | other (inserted : Inserted line before text text') (single : '\n' ∉ line)
      (other : ∀ digits, ¬ CountLine line digits)
  | later (inserted : Inserted line before text text') (single : '\n' ∉ line)
      (earlier : counting ∈ lines before) (counts : CountLine counting digits)

theorem Extended.findSome?_eq (extended : Extended text text') :
    (lines text).findSome? countDigits? = (lines text').findSome? countDigits? := by
  rw [← List.head?_filterMap, ← List.head?_filterMap]
  cases extended with
  | other inserted single other =>
    obtain ⟨rest, without, extended⟩ := inserted.filterMap_lines countDigits?_lenient single
    rw [without, extended, countDigits?_eq_none_iff.mpr other]
    rfl
  | later inserted single earlier counts =>
    obtain ⟨rest, without, extended⟩ := inserted.filterMap_lines countDigits?_lenient single
    have decides := List.mem_filterMap.mpr ⟨_, earlier, countDigits?_eq_some_iff.mpr counts⟩
    obtain ⟨digits', more, front⟩ := List.exists_cons_of_ne_nil (List.ne_nil_of_mem decides)
    rw [without, extended, front]
    rfl

/-- However many such lines are put in or taken out, one after the other, the same digits decide. -/
theorem findSome?_eq_of_edits (edits : Relation.EqvGen Extended text text') :
    (lines text).findSome? countDigits? = (lines text').findSome? countDigits? := by
  induction edits with
  | rel _ _ extended => exact extended.findSome?_eq
  | refl => rfl
  | symm _ _ _ ih => exact ih.symm
  | trans _ _ _ _ _ first second => exact first.trans second

theorem readCount_eq_ok_congr {output output' : String}
    (same : (lines output.toList).findSome? countDigits? = (lines output'.toList).findSome? countDigits?) :
    readCount output = .ok n ↔ readCount output' = .ok n := by
  unfold readCount
  rw [same]
  cases (lines output'.toList).findSome? countDigits? <;> simp

theorem decided_iff {answer : Except Error Nat} :
    (readCount output).mapError TopologyFault.error = answer ↔ Decided output answer := by
  constructor
  · rintro rfl
    unfold readCount
    cases found : (lines output.toList).findSome? countDigits? with
    | none => exact .uncounted (findSome?_countDigits?_eq_none_iff.mp found)
    | some digits =>
      have first := findSome?_countDigits?_eq_some_iff.mp found
      dsimp only
      cases read : readNumeral digits with
      | ok n => exact .counted first (readNumeral_iff.mp read)
      | error fault => exact .refused first ((readNumeral_eq_error_iff first.nonempty).mp read)
  · rintro (⟨first, numeral⟩ | ⟨first, bad⟩ | silent)
    · rw [readCount, findSome?_countDigits?_eq_some_iff.mpr first]
      simp [readNumeral_iff.mpr numeral]
    · rw [readCount, findSome?_countDigits?_eq_some_iff.mpr first]
      simp only [(readNumeral_eq_error_iff first.nonempty).mpr bad, mapError_error]
      rfl
    · rw [readCount, findSome?_countDigits?_eq_none_iff.mpr silent]
      rfl

/-- The first count line decides the answer. Whether a number is told, and which, is the same of all
outputs that differ by lines that count nothing or come later. -/
theorem readCount_decided (output : String) :
    (∀ answer, (readCount output).mapError TopologyFault.error = answer ↔ Decided output answer) ∧
      ∀ output' : String, Relation.EqvGen Extended output.toList output'.toList →
        ∀ n, readCount output = .ok n ↔ readCount output' = .ok n :=
  ⟨fun _ => decided_iff, fun _ edits _ => readCount_eq_ok_congr (findSome?_eq_of_edits edits)⟩

/-- A near miss before the count and another count after it. -/
theorem readCount_decided_nearMiss :
    let nodes := "NUMA node0 CPU(s):       0-7\r".toList
    let count := "CPU(s):                  8 ".toList
    let again := "CPU(s): 4".toList
    let output := String.ofList count
    let output' := String.ofList (nodes ++ '\n' :: (count ++ '\n' :: again))
    Relation.EqvGen Extended output.toList output'.toList ∧ readCount output' = .ok 8 := by
  intro nodes count again output output'
  have silent : ∀ digits, ¬ CountLine nodes digits := countDigits?_eq_none_iff.mp (by decide +kernel)
  have counts : CountLine count ['8'] := countDigits?_eq_some_iff.mp (by decide +kernel)
  have later : Extended count (count ++ '\n' :: again) :=
    .later .last (by decide) (show count ∈ lines count by decide +kernel) counts
  have front : Extended (count ++ '\n' :: again) (nodes ++ '\n' :: (count ++ '\n' :: again)) :=
    .other .first (by decide) silent
  have edits : Relation.EqvGen Extended output.toList output'.toList := by
    rw [String.toList_ofList, String.toList_ofList]
    exact .trans _ _ _ (.rel _ _ later) (.rel _ _ front)
  exact ⟨edits, ((readCount_decided output).2 output' edits 8).mp (by decide +kernel)⟩

end Lscpu
end SchedLatency
