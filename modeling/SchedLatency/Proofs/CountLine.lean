import SchedLatency.Proofs.Fields
import SchedLatency.Topology

/-! The line that tells the number of processors. `CountLine` says which lines do, and `Counted` that
the first of them decides. Main statement: `readCount_eq_ok_iff`. -/
namespace SchedLatency

namespace Text

/-- White space at the end is set apart by any test that it fails. -/
theorem span_append_blank {p : Char → Bool} (apart : ∀ c, isBlank c = true → p c = false)
    (passes : ∀ c ∈ s, p c = true) (after : Blank w) :
    (s ++ w).takeWhile p = s ∧ (s ++ w).dropWhile p = w := by
  rw [List.takeWhile_append_of_pos passes, List.dropWhile_append_of_pos passes]
  cases w with
  | nil => simp
  | cons c w => simp [apart c (after c List.mem_cons_self)]

end Text

namespace Lscpu

open Text

/-- The digits on a line that counts the processors. They may be of any script. -/
inductive CountLine : List Char → List Char → Prop where
  | intro (before : Blank w) (nonempty : digits ≠ [])
      (decimal : ∀ c ∈ digits, isDecimalDigit c = true) (after : Blank w') :
      CountLine ("CPU(s):".toList ++ (w ++ (digits ++ w'))) digits

/-- The first line that counts the processors tells this number. -/
def Counted (output : String) (n : Nat) : Prop :=
  ∃ before line after digits, lines output.toList = before ++ line :: after ∧
    (∀ earlier ∈ before, ∀ digits', ¬ CountLine earlier digits') ∧ CountLine line digits ∧
    Numeral digits n

theorem after?_eq_some_iff : after? label line = some rest ↔ line = label.toList ++ rest := by
  unfold after?
  constructor
  · intro found
    split at found
    · next begins =>
      obtain ⟨more, rfl⟩ := List.isPrefixOf_iff_prefix.mp begins
      simpa using found
    · cases found
  · rintro rfl
    simp

theorem not_isDecimalDigit_of_isBlank (c : Char) (blank : isBlank c = true) :
    isDecimalDigit c = false := by
  apply Bool.eq_false_iff.mpr
  intro digit
  cases (not_isBlank_of_isDecimalDigit digit).symm.trans blank

theorem countDigits?_eq_some_iff : countDigits? line = some digits ↔ CountLine line digits := by
  unfold countDigits?
  simp only [Option.bind_eq_bind, Option.bind_eq_some_iff, after?_eq_some_iff]
  constructor
  · rintro ⟨rest, rfl, read⟩
    split at read
    · next ends =>
      obtain ⟨nonempty, after⟩ := ends
      obtain rfl := Option.some.inj read
      have blank : Blank (rest.takeWhile isBlank) := fun c => List.mem_takeWhile_imp
      have shape := CountLine.intro blank nonempty (fun c => List.mem_takeWhile_imp)
        (List.all_eq_true.mp after)
      rwa [List.takeWhile_append_dropWhile, takeWhile_append_trimStart] at shape
    · cases read
  · rintro ⟨before, nonempty, decimal, after⟩
    have solid (more : List Char) : ∀ c, (digits ++ more).head? = some c → isBlank c = false := by
      obtain ⟨digit, digits, rfl⟩ := List.exists_cons_of_ne_nil nonempty
      rintro c ⟨⟩
      exact not_isBlank_of_isDecimalDigit (decimal digit List.mem_cons_self)
    obtain ⟨taken, left⟩ := span_append_blank not_isDecimalDigit_of_isBlank decimal after
    refine ⟨_, rfl, ?_⟩
    rw [trimStart_append_of_blank before, trimStart_eq_self (solid _), taken, left,
      if_pos ⟨nonempty, List.all_eq_true.mpr after⟩]

theorem countDigits?_eq_none_iff : countDigits? line = none ↔ ∀ digits, ¬ CountLine line digits := by
  simp only [Option.eq_none_iff_forall_ne_some, ne_eq, countDigits?_eq_some_iff]

def FirstCount (ls : List (List Char)) (digits : List Char) : Prop :=
  ∃ before line after, ls = before ++ line :: after ∧
    (∀ earlier ∈ before, ∀ digits', ¬ CountLine earlier digits') ∧ CountLine line digits

theorem findSome?_countDigits?_eq_some_iff {ls : List (List Char)} :
    ls.findSome? countDigits? = some digits ↔ FirstCount ls digits := by
  simp only [FirstCount, List.findSome?_eq_some_iff, countDigits?_eq_some_iff,
    countDigits?_eq_none_iff, and_comm]

theorem findSome?_countDigits?_eq_none_iff {ls : List (List Char)} :
    ls.findSome? countDigits? = none ↔ ∀ line ∈ ls, ∀ digits, ¬ CountLine line digits := by
  simp only [List.findSome?_eq_none_iff, countDigits?_eq_none_iff]

theorem readCount_eq_ok_iff : readCount output = .ok n ↔ Counted output n := by
  have first : Counted output n ↔ ∃ digits, FirstCount (lines output.toList) digits ∧ Numeral digits n := by
    constructor
    · rintro ⟨before, line, after, digits, split, none, decides, numeral⟩
      exact ⟨digits, ⟨before, line, after, split, none, decides⟩, numeral⟩
    · rintro ⟨digits, ⟨before, line, after, split, none, decides⟩, numeral⟩
      exact ⟨before, line, after, digits, split, none, decides, numeral⟩
  simp only [first, ← findSome?_countDigits?_eq_some_iff, ← readNumeral_iff, readCount]
  cases (lines output.toList).findSome? countDigits? with
  | none => simp
  | some digits => cases read : readNumeral digits <;> simp [read]

end Lscpu
end SchedLatency
