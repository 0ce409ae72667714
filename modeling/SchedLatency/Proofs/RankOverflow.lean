import Mathlib.Data.Int.GCD
import Mathlib.Data.Nat.Prime.Basic
import SchedLatency.Proofs.OrderStatistics

/-! Ranks of any size. A rank is meant to grow with the percentage and to end at the last value, and
so it does as long as its product with the number of values is a word. Where the product overflows, a
checked build panics, and in a release build a rank far past 100 percent can fall on the first value.
Main statement: `percentile_rankOrder`. -/
namespace SchedLatency

open Text

/-- Of these ranks a higher one has no lower value, and from 100 percent on it has the last. -/
structure RankOrder (build : Build) (sorted : List Nat) (ranks : Nat → Prop) : Prop where
  monotone : ∀ p q, ranks p → ranks q → p ≤ q →
    ∃ v w, percentile build sorted p = .ok v ∧ percentile build sorted q = .ok w ∧ v ≤ w
  last : ∀ p, ranks p → 100 ≤ p →
    ∃ v, percentile build sorted p = .ok v ∧ sorted.getLast? = some v

/-- A product that leaves next to nothing past the limit brings the rank back to the first value. -/
theorem percentile?_of_wrapped {sorted : List Nat} {p : Nat}
    (wrapped : sorted.length * p % wordLimit < 100) : percentile? sorted p = sorted.head? := by
  rw [percentile?_eq, Nat.div_eq_of_lt wrapped, Nat.zero_min, List.head?_eq_getElem?]

/-- For every number of values but one there is such a rank. -/
theorem exists_wrapped {n : Nat} (several : 1 < n) (fits : n < wordLimit) :
    ∃ p, 100 ≤ p ∧ p < wordLimit ∧ n * p % wordLimit < 100 := by
  have limit : wordLimit = 2 ^ 64 := by decide
  rw [limit] at fits ⊢
  rcases Nat.even_or_odd n with even | odd
  -- Half the limit times an even number leaves nothing; an odd number has an inverse, which leaves one.
  case inl =>
    obtain ⟨half, rfl⟩ := even
    have product : (half + half) * 2 ^ 63 = half * 2 ^ 64 := by omega
    exact ⟨2 ^ 63, by omega, by omega, by rw [product, Nat.mul_mod_left]; omega⟩
  case inr =>
    have coprime : Nat.Coprime n (2 ^ 64) := odd.coprime_two_right.pow_right 64
    obtain ⟨m, below, inverse⟩ := Nat.exists_mul_mod_eq_one_of_coprime coprime (by omega)
    by_cases large : 100 ≤ m
    · exact ⟨m, large, below, by omega⟩
    -- A small inverse is at least two, as `n` is not one, so that 99 times it is large enough.
    · have two : 2 ≤ m := by
        rcases m with _ | _ | m
        · simp at inverse
        · rw [zero_add, Nat.mul_one, Nat.mod_eq_of_lt fits] at inverse
          omega
        · omega
      have residue : n * (m * 99) % 2 ^ 64 = 99 := by
        rw [← Nat.mul_assoc, Nat.mul_mod, inverse]
        omega
      exact ⟨m * 99, by omega, by omega, by omega⟩

section
variable {sorted : List Nat} (nonempty : sorted ≠ [])
include nonempty

theorem exists_percentile? (p : Nat) : ∃ v, percentile? sorted p = some v :=
  Option.isSome_iff_exists.mp (percentile?_isSome nonempty p)

theorem percentile_eq_ok_iff_of_fits (fits : sorted.length * p < wordLimit) (build : Build) :
    percentile build sorted p = .ok v ↔ percentile? sorted p = some v := by
  rw [percentile?_eq_some_iff_release, percentile_of_fits nonempty fits,
    percentile_of_fits nonempty fits]

theorem percentile_checked_eq_error_iff :
    percentile .checked sorted p = .error .multiply ↔ wordLimit ≤ sorted.length * p := by
  constructor
  · intro panics
    by_contra fits
    obtain ⟨v, found⟩ := exists_percentile? nonempty p
    have found' := (percentile_eq_ok_iff_of_fits nonempty (Nat.not_le.mp fits) .checked).mpr found
    cases panics.symm.trans found'
  · intro large
    rw [percentile, Build.multiply, if_neg (Nat.not_lt.mpr large)]
    rfl

variable (ascending : sorted.Pairwise (· ≤ ·))
include ascending

/-- However the program is built, the order holds of all ranks whose product is a word. -/
theorem rankOrder_of_fits (build : Build) :
    RankOrder build sorted fun p => sorted.length * p < wordLimit where
  monotone p q fits fits' le := by
    obtain ⟨v, lower⟩ := exists_percentile? nonempty p
    obtain ⟨w, upper⟩ := exists_percentile? nonempty q
    exact ⟨v, w, (percentile_eq_ok_iff_of_fits nonempty fits build).mpr lower,
      (percentile_eq_ok_iff_of_fits nonempty fits' build).mpr upper,
      percentile?_le ascending le fits' lower upper⟩
  last p fits full := by
    obtain ⟨v, found⟩ := exists_percentile? nonempty p
    refine ⟨v, (percentile_eq_ok_iff_of_fits nonempty fits build).mpr found, ?_⟩
    have past : sorted.length ≤ sorted.length * p / 100 := by
      rw [Nat.le_div_iff_mul_le (by omega)]
      exact Nat.mul_le_mul_left _ full
    rw [percentile?_of_fits fits, Nat.min_eq_right (by omega)] at found
    rw [List.getLast?_eq_getElem?, found]

/-- Where the last value is the first, every rank of a release build has it. -/
theorem rankOrder_of_equal (equal : sorted.head? = sorted.getLast?) (ranks : Nat → Prop) :
    RankOrder .release sorted ranks := by
  have last := List.getLast?_eq_some_getLast nonempty
  generalize sorted.getLast nonempty = only at last
  have same (p : Nat) : percentile .release sorted p = .ok only := by
    obtain ⟨v, found⟩ := exists_percentile? nonempty p
    have member := ThreadStats.percentile?_mem found
    have least := head?_le_of_mem ascending (equal.trans last) member
    have greatest := le_getLast?_of_mem ascending last member
    rw [← percentile?_eq_some_iff_release, found, Nat.le_antisymm greatest least]
  exact {
    monotone := fun p q _ _ _ => ⟨only, only, same p, same q, Nat.le_refl _⟩
    last := fun p _ _ => ⟨only, same p, last⟩ }

/-- In a checked build all words are in order for a single value only: two values overflow with the
greatest word. -/
theorem rankOrder_checked_iff :
    RankOrder .checked sorted (· < wordLimit) ↔ sorted.length = 1 := by
  have positive := List.length_pos_iff.mpr nonempty
  constructor
  · intro order
    obtain ⟨v, found, _⟩ := order.last (wordLimit - 1) (by decide) (by decide)
    by_contra several
    have product : 2 * (wordLimit - 1) ≤ sorted.length * (wordLimit - 1) :=
      Nat.mul_le_mul_right _ (by omega)
    have large : wordLimit ≤ 2 * (wordLimit - 1) := by decide
    have panics := (percentile_checked_eq_error_iff nonempty).mpr (Nat.le_trans large product)
    cases panics.symm.trans found
  · intro single
    have order := rankOrder_of_fits nonempty ascending .checked
    simpa only [single, Nat.one_mul] using order

end

theorem head?_eq_getLast?_of_rankOrder {sorted : List Nat} (length : sorted.length < wordLimit)
    (order : RankOrder .release sorted (· < wordLimit)) : sorted.head? = sorted.getLast? := by
  rcases sorted with _ | ⟨x, _ | ⟨y, more⟩⟩
  case nil => rfl
  case cons.nil => rfl
  case cons.cons =>
    obtain ⟨p, full, word, wrapped⟩ := exists_wrapped (by simp) length
    obtain ⟨v, found, last⟩ := order.last p word full
    rw [← percentile?_eq_some_iff_release, percentile?_of_wrapped wrapped] at found
    exact found.trans last.symm

/-- Ranks are in order where their products with the number of values are words. A checked build
panics over any other rank, so that all 64-bit ranks are in order just for a single value; in a release
build they are just for values that are all equal, the first and the last of them. -/
theorem percentile_rankOrder {sorted : List Nat} (nonempty : sorted ≠ [])
    (ascending : sorted.Pairwise (· ≤ ·)) (length : sorted.length < wordLimit) :
    (∀ build, RankOrder build sorted fun p => sorted.length * p < wordLimit) ∧
      (∀ p, percentile .checked sorted p = .error .multiply ↔ wordLimit ≤ sorted.length * p) ∧
      (RankOrder .checked sorted (· < wordLimit) ↔ sorted.length = 1) ∧
      (RankOrder .release sorted (· < wordLimit) ↔ sorted.head? = sorted.getLast?) :=
  ⟨rankOrder_of_fits nonempty ascending, fun _ => percentile_checked_eq_error_iff nonempty,
    rankOrder_checked_iff nonempty ascending, head?_eq_getLast?_of_rankOrder length,
    fun equal => rankOrder_of_equal nonempty ascending equal _⟩

theorem percentile_rankOrder_three :
    [9, 9, 58] ≠ [] ∧ [9, 9, 58].Pairwise (· ≤ ·) ∧ [9, 9, 58].length < wordLimit ∧
      RankOrder .checked [9, 9, 58] (fun p => 3 * p < wordLimit) ∧
      ¬ RankOrder .checked [9, 9, 58] (· < wordLimit) ∧
      ¬ RankOrder .release [9, 9, 58] (· < wordLimit) := by
  have nonempty : [9, 9, 58] ≠ [] := by decide
  have ascending : [9, 9, 58].Pairwise (· ≤ ·) := by decide
  have length : [9, 9, 58].length < wordLimit := by decide
  obtain ⟨inOrder, _, checked, release⟩ := percentile_rankOrder nonempty ascending length
  exact ⟨nonempty, ascending, length, inOrder .checked, mt checked.mp (by decide),
    mt release.mp (by decide)⟩

/-- Of two values the rank of 100 percent has the last. One far higher has none in a checked build, and
the first in a release build. -/
theorem percentile_overflows :
    [9, 58].Pairwise (· ≤ ·) ∧ 100 ≤ 2 ^ 63 ∧ 2 ^ 63 < wordLimit ∧
      (∀ build, percentile build [9, 58] 100 = .ok 58) ∧
      percentile .checked [9, 58] (2 ^ 63) = .error .multiply ∧
      percentile .release [9, 58] (2 ^ 63) = .ok 9 := by
  refine ⟨by decide, by decide, by decide, ?_, rfl, rfl⟩
  intro build
  cases build <;> rfl

end SchedLatency
