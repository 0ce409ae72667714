import Mathlib.Algebra.Order.Field.Power
import Mathlib.Tactic.Linarith
import Mathlib.Tactic.NormNum
import Mathlib.Tactic.Positivity
import Mathlib.Tactic.Ring
import SchedLatency.Binary64

/-! The numbers that binary floating point stands for. One rounding moves a ratio by at most one part
in `2 ^ 53` of it, and never past a number of the grid that its significand can reach, so what lies on
that grid is kept. -/
namespace SchedLatency

section Integers
variable {num den q : Nat}

variable (num) in
theorem divEven_near (pos : 0 < den) :
    2 * num ≤ (2 * divEven num den + 1) * den ∧ 2 * divEven num den * den ≤ 2 * num + den := by
  have parts := Nat.div_add_mod num den
  have small := Nat.mod_lt num pos
  unfold divEven
  generalize num / den = q at *
  generalize num % den = r at *
  subst parts
  dsimp only
  split
  case isTrue below => constructor <;> linarith
  case isFalse =>
    split
    case isTrue above => constructor <;> linarith
    case isFalse =>
      have tie : 2 * r = den := by omega
      obtain even | uneven := Nat.mod_two_eq_zero_or_one q
      · rw [even]
        constructor <;> linarith
      · rw [uneven]
        constructor <;> linarith

theorem le_divEven (pos : 0 < den) (le : q * den ≤ num) : q ≤ divEven num den := by
  have near := (divEven_near num pos).1
  have : 2 * q * den ≤ (2 * divEven num den + 1) * den := by linarith
  have := Nat.le_of_mul_le_mul_right this pos
  omega

theorem divEven_le (pos : 0 < den) (le : num ≤ q * den) : divEven num den ≤ q := by
  have near := (divEven_near num pos).2
  have : 2 * divEven num den * den ≤ (2 * q + 1) * den := by linarith
  have := Nat.le_of_mul_le_mul_right this pos
  omega

theorem abs_divEven_sub_le (pos : 0 < den) : |(divEven num den : ℚ) - num / den| ≤ 1 / 2 := by
  have pos' : (0 : ℚ) < den := by exact_mod_cast pos
  obtain ⟨above, below⟩ := divEven_near num pos
  have above : (2 : ℚ) * num ≤ (2 * divEven num den + 1) * den := by exact_mod_cast above
  have below : (2 : ℚ) * divEven num den * den ≤ 2 * num + den := by exact_mod_cast below
  have ratio : (num : ℚ) / den * den = num := div_mul_cancel₀ _ pos'.ne'
  rw [abs_le]
  constructor
  · apply le_of_mul_le_mul_right _ pos'
    linarith
  · apply le_of_mul_le_mul_right _ pos'
    linarith

end Integers

namespace Binary64

def value (x : Binary64) : ℚ := x.significand * 2 ^ x.exponent

theorem value_nonneg (x : Binary64) : 0 ≤ x.value := by
  unfold value; positivity

theorem two_zpow (e : ℤ) : (2 : ℚ) ^ e = 2 ^ e.toNat / 2 ^ (-e).toNat := by
  obtain ⟨n, rfl | rfl⟩ := e.eq_nat_or_neg <;> simp

theorem value_eq_div (x : Binary64) : x.value = (x.num : ℚ) / x.den := by
  rw [value, two_zpow, num, den, Nat.shiftLeft_eq, Nat.one_shiftLeft]
  push_cast
  ring

section Ratio
variable {n d : Nat}

/-- Cutting a ratio by a power of two, in integers. -/
theorem shifted_ratio (n d : Nat) (e : ℤ) :
    ((n <<< (-e).toNat : Nat) : ℚ) / (d <<< e.toNat : Nat) = (n : ℚ) / d / 2 ^ e := by
  rw [two_zpow, Nat.shiftLeft_eq, Nat.shiftLeft_eq]
  push_cast
  rw [div_div_eq_mul_div, div_mul_eq_mul_div, div_div]

theorem shifted_lt_iff (hd : 0 < d) (e : ℤ) :
    n <<< (-e).toNat < d <<< (e.toNat + 53) ↔ (n : ℚ) / d < 2 ^ (e + 53) := by
  have cut : 0 < d <<< e.toNat := Nat.shiftLeft_pos_iff.mpr hd
  calc n <<< (-e).toNat < d <<< (e.toNat + 53)
    _ ↔ ((n <<< (-e).toNat : Nat) : ℚ) < 2 ^ 53 * (d <<< e.toNat : Nat) := by
      rw [Nat.shiftLeft_add, Nat.shiftLeft_eq _ 53, mul_comm (2 ^ 53 : ℚ)]
      exact_mod_cast Iff.rfl
    _ ↔ (n : ℚ) / d / 2 ^ e < 2 ^ 53 := by
      rw [← shifted_ratio, div_lt_iff₀ (by exact_mod_cast cut)]
    _ ↔ (n : ℚ) / d < 2 ^ (e + 53) := by
      rw [div_lt_iff₀ (by positivity), zpow_add₀ two_ne_zero, mul_comm]
      rfl

/-- The lengths of two numbers give their ratio up to a factor of four. -/
theorem log2_ratio_bounds (hn : 0 < n) (hd : 0 < d) :
    (2 : ℚ) ^ (n.log2 - d.log2 - 1 : ℤ) ≤ (n : ℚ) / d ∧ (n : ℚ) / d < 2 ^ (n.log2 - d.log2 + 1 : ℤ) := by
  have hd' : (0 : ℚ) < d := by exact_mod_cast hd
  have n_low : (2 : ℚ) ^ (n.log2 : ℤ) ≤ n := by exact_mod_cast Nat.log2_self_le hn.ne'
  have n_high : (n : ℚ) < 2 ^ (n.log2 + 1 : ℤ) := by exact_mod_cast Nat.lt_log2_self
  have d_low : (2 : ℚ) ^ (d.log2 : ℤ) ≤ d := by exact_mod_cast Nat.log2_self_le hd.ne'
  have d_high : (d : ℚ) < 2 ^ (d.log2 + 1 : ℤ) := by exact_mod_cast Nat.lt_log2_self
  rw [le_div_iff₀ hd', div_lt_iff₀ hd']
  constructor
  · calc (2 : ℚ) ^ (n.log2 - d.log2 - 1 : ℤ) * d
      _ ≤ 2 ^ (n.log2 - d.log2 - 1 : ℤ) * 2 ^ (d.log2 + 1 : ℤ) := by gcongr
      _ = 2 ^ (n.log2 : ℤ) := by rw [← zpow_add₀ two_ne_zero]; congr 1; ring
      _ ≤ n := n_low
  · calc (n : ℚ)
      _ < 2 ^ (n.log2 + 1 : ℤ) := n_high
      _ = 2 ^ (n.log2 - d.log2 + 1 : ℤ) * 2 ^ (d.log2 : ℤ) := by rw [← zpow_add₀ two_ne_zero]; congr 1; ring
      _ ≤ 2 ^ (n.log2 - d.log2 + 1 : ℤ) * d := by gcongr

/-- The exponent puts the significand of a positive ratio between `2 ^ 52` and `2 ^ 53`. -/
theorem exponentOf_bounds (hn : 0 < n) (hd : 0 < d) :
    (2 : ℚ) ^ (exponentOf n d + 52) ≤ (n : ℚ) / d ∧ (n : ℚ) / d < 2 ^ (exponentOf n d + 53) := by
  obtain ⟨low, high⟩ := log2_ratio_bounds hn hd
  rw [exponentOf]
  split
  case isTrue below =>
    refine ⟨?_, (shifted_lt_iff hd _).mp below⟩
    convert low using 2
    ring
  case isFalse above =>
    rw [shifted_lt_iff hd, not_lt] at above
    constructor
    · rwa [add_assoc _ 1 52]
    · convert high using 2
      ring

/-- The ratio in units of the last place of its significand. -/
theorem value_ofRatio (hn : 0 < n) (hd : 0 < d) : ∃ num den : Nat, 0 < den ∧
    (num : ℚ) / den = (n : ℚ) / d / 2 ^ exponentOf n d ∧
    (ofRatio n d).value = divEven num den * 2 ^ exponentOf n d := by
  refine ⟨_, _, Nat.shiftLeft_pos_iff.mpr hd, shifted_ratio n d _, ?_⟩
  rw [ofRatio, if_neg hn.ne', value]

@[simp] theorem value_ofRatio_zero : (ofRatio 0 d).value = 0 := by
  simp [ofRatio, value]

/-- A number of a grid at least as coarse as the significand's is a whole number of its units. -/
theorem exists_units (hn : 0 < n) (hd : 0 < d) (k : Nat) {j : ℤ} (fine : (n : ℚ) / d < 2 ^ (j + 53)) :
    ∃ q : Nat, (k : ℚ) * 2 ^ j = q * 2 ^ exponentOf n d := by
  have reach := (exponentOf_bounds hn hd).1.trans_lt fine
  rw [zpow_lt_zpow_iff_right₀ one_lt_two] at reach
  refine ⟨k * 2 ^ (j - exponentOf n d).toNat, ?_⟩
  have shift : ((j - exponentOf n d).toNat : ℤ) = j - exponentOf n d := Int.toNat_of_nonneg (by omega)
  push_cast
  rw [← zpow_natCast, shift, mul_assoc, ← zpow_add₀ two_ne_zero, sub_add_cancel]

end Ratio

/-- What one rounding makes of a number. -/
inductive Rounded : ℚ → Binary64 → Prop
  | ofRatio (n d : Nat) (hd : 0 < d) : Rounded ((n : ℚ) / d) (ofRatio n d)

namespace Rounded
variable {r : ℚ} {x : Binary64} {k : Nat} {j : ℤ}

/-- It changes the number by at most one part in `2 ^ 53` of it. -/
theorem near (rounded : Rounded r x) : |x.value - r| ≤ r / 2 ^ 53 := by
  obtain ⟨n, d, hd⟩ := rounded
  obtain rfl | hn := Nat.eq_zero_or_pos n
  · simp
  obtain ⟨num, den, pos, ratio, value⟩ := value_ofRatio hn hd
  have unit : (0 : ℚ) < 2 ^ exponentOf n d := by positivity
  calc |(Binary64.ofRatio n d).value - (n : ℚ) / d|
    _ = |(divEven num den : ℚ) - num / den| * 2 ^ exponentOf n d := by
      rw [value, ratio, ← abs_of_pos unit, ← abs_mul, abs_of_pos unit, sub_mul, div_mul_cancel₀ _ unit.ne']
    _ ≤ 1 / 2 * 2 ^ exponentOf n d := by
      gcongr
      exact abs_divEven_sub_le pos
    _ = 2 ^ (exponentOf n d + 52) / 2 ^ 53 := by
      rw [zpow_add₀ two_ne_zero]
      norm_num
      ring
    _ ≤ (n : ℚ) / d / 2 ^ 53 := by
      gcongr
      exact (exponentOf_bounds hn hd).1

/-- The number, what is made of it and a number of the grid are all counted in one unit: the last place
of the significand, which is no coarser than the grid. -/
theorem units (rounded : Rounded r x) (fine : r < 2 ^ (j + 53)) (k : Nat) :
    ∃ (num den q : Nat) (unit : ℚ), 0 < den ∧ 0 < unit ∧
      r = num / den * unit ∧ x.value = divEven num den * unit ∧ k * 2 ^ j = q * unit := by
  obtain ⟨n, d, hd⟩ := rounded
  obtain rfl | hn := Nat.eq_zero_or_pos n
  · exact ⟨0, 1, k, 2 ^ j, Nat.one_pos, by positivity, by simp, by simp [divEven], rfl⟩
  · obtain ⟨num, den, pos, ratio, value⟩ := value_ofRatio hn hd
    obtain ⟨q, grid⟩ := exists_units hn hd k fine
    have unit : (0 : ℚ) < 2 ^ exponentOf n d := by positivity
    exact ⟨num, den, q, _, pos, unit, by rw [ratio, div_mul_cancel₀ _ unit.ne'], value, grid⟩

/-- It never takes the number below one of the grid that it reaches. -/
theorem le_value (rounded : Rounded r x) (fine : r < 2 ^ (j + 53)) (le : (k : ℚ) * 2 ^ j ≤ r) :
    (k : ℚ) * 2 ^ j ≤ x.value := by
  obtain ⟨num, den, q, unit, pos, unit_pos, ratio, value, grid⟩ := rounded.units fine k
  rw [ratio, grid, mul_le_mul_iff_of_pos_right unit_pos, le_div_iff₀ (by exact_mod_cast pos)] at le
  rw [value, grid]
  gcongr
  exact le_divEven pos (by exact_mod_cast le)

/-- It never takes the number above one of the grid that it does not pass. -/
theorem value_le (rounded : Rounded r x) (fine : r < 2 ^ (j + 53)) (le : r ≤ (k : ℚ) * 2 ^ j) :
    x.value ≤ (k : ℚ) * 2 ^ j := by
  obtain ⟨num, den, q, unit, pos, unit_pos, ratio, value, grid⟩ := rounded.units fine k
  rw [ratio, grid, mul_le_mul_iff_of_pos_right unit_pos, div_le_iff₀ (by exact_mod_cast pos)] at le
  rw [value, grid]
  gcongr
  exact divEven_le pos (by exact_mod_cast le)

/-- It keeps a whole number of at most 53 bits. -/
theorem value_eq (rounded : Rounded (k : ℚ) x) (small : k < 2 ^ 53) : x.value = k := by
  have fine : (k : ℚ) < 2 ^ ((0 : ℤ) + 53) := by exact_mod_cast small
  have below := rounded.le_value (k := k) fine (by simp)
  have above := rounded.value_le (k := k) fine (by simp)
  simp only [zpow_zero, mul_one] at below above
  exact le_antisymm above below

end Rounded

section Operations
variable (x y : Binary64)

theorem rounded_ofNat (n : Nat) : Rounded n (ofNat n) := by
  simpa [ofNat] using Rounded.ofRatio n 1 Nat.one_pos

theorem value_ofNat {n : Nat} (small : n < 2 ^ 53) : (ofNat n).value = n := (rounded_ofNat n).value_eq small

theorem rounded_mul : Rounded (x.value * y.value) (x.mul y) := by
  have product := Rounded.ofRatio (x.num * y.num) _ (Nat.mul_pos x.den_pos y.den_pos)
  push_cast at product
  rwa [← div_mul_div_comm, ← value_eq_div, ← value_eq_div] at product

theorem rounded_div (divisor : 0 < y.value) : Rounded (x.value / y.value) (x.div y) := by
  have pos : 0 < y.num := by
    rw [value_eq_div] at divisor
    exact_mod_cast (div_pos_iff_of_pos_right (by exact_mod_cast y.den_pos)).mp divisor
  have quotient := Rounded.ofRatio (x.num * y.den) _ (Nat.mul_pos x.den_pos pos)
  push_cast at quotient
  rwa [← div_div_div_eq, ← value_eq_div, ← value_eq_div] at quotient

/-- Which whole numbers the nearest one reaches, a half going up. -/
theorem le_round_iff (k : Nat) : k ≤ x.round ↔ (2 * k - 1 : ℚ) / 2 ≤ x.value := by
  have pos : 0 < x.den := x.den_pos
  have pos' : (0 : ℚ) < x.den := by exact_mod_cast pos
  calc k ≤ x.round
    _ ↔ k * (2 * x.den) ≤ 2 * x.num + x.den := Nat.le_div_iff_mul_le (by positivity)
    _ ↔ (k * (2 * x.den) : ℚ) ≤ 2 * x.num + x.den := by exact_mod_cast Iff.rfl
    _ ↔ (2 * k - 1 : ℚ) / 2 ≤ x.value := by
      rw [value_eq_div, le_div_iff₀ pos', div_mul_eq_mul_div, div_le_iff₀ two_pos]
      constructor <;> intro _ <;> linarith

end Operations
end Binary64
end SchedLatency
