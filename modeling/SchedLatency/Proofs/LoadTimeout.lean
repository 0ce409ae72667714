import Mathlib.Data.Rat.Floor
import SchedLatency.Config
import SchedLatency.Proofs.Rounding

/-! How long the load generator is told to run. The timeout is 110% of the probe's runtime, rounded to
whole seconds; the three roundings on the way to it never move it past a half second. Rounding down can
take more than the margin gave, for some runtimes between one second and five. Main statements:
`loadTimeout_covers` and `loadTimeout_exact`. -/
namespace SchedLatency
open Binary64

/-- The whole second nearest to a time, a half going up. -/
def nearestSecond (seconds : ℚ) : ℕ := ⌊seconds + 1 / 2⌋₊

theorem le_nearestSecond_iff {seconds : ℚ} (nonneg : 0 ≤ seconds) (k : Nat) :
    k ≤ nearestSecond seconds ↔ (2 * k - 1 : ℚ) / 2 ≤ seconds := by
  rw [nearestSecond, Nat.le_floor_iff (by positivity)]
  constructor <;> intro _ <;> linarith

theorem nearestSecond_value (x : Binary64) : nearestSecond x.value = x.round := by
  apply eq_of_forall_le_iff
  intro k
  rw [le_nearestSecond_iff (value_nonneg x), le_round_iff]

/-- A time that reaches the half seconds that 110% of the microseconds reach, and no others. -/
theorem nearestSecond_eq {seconds : ℚ} {micros : Nat} (nonneg : 0 ≤ seconds)
    (reaches : ∀ k : Nat, 10 ^ 7 * k ≤ 11 * micros + 5 * 10 ^ 6 → (2 * k - 1 : ℚ) / 2 ≤ seconds)
    (misses : ∀ k : Nat, 11 * micros + 5 * 10 ^ 6 < 10 ^ 7 * k → seconds < (2 * k - 1 : ℚ) / 2) :
    nearestSecond seconds = (11 * micros + 5 * 10 ^ 6) / 10 ^ 7 := by
  apply eq_of_forall_le_iff
  intro k
  rw [Nat.le_div_iff_mul_le (by positivity), mul_comm, le_nearestSecond_iff nonneg]
  constructor
  · intro reached
    by_contra missed
    exact reached.not_gt (misses k (not_le.mp missed))
  · exact reaches k

namespace ProbeConfig

def runtime (c : ProbeConfig) : Nat := c.loops * c.interval

theorem loadMargin_value : loadMargin.value = 4953959590107546 / 2 ^ 52 := by
  have word : loadMargin = ⟨4953959590107546, -52⟩ := by decide +kernel
  rw [word, value]
  norm_num

section Runtime
variable {c : ProbeConfig} (loops : 1 ≤ c.loops) (interval : 1 ≤ c.interval)
  (bound : c.runtime ≤ 10 ^ 14)
include loops interval bound

theorem nominalSeconds_rounded : Rounded ((c.runtime : ℚ) / 10 ^ 6) c.nominalSeconds := by
  have few : c.loops ≤ c.runtime := Nat.le_mul_of_pos_right _ interval
  have short : c.interval ≤ c.runtime := Nat.le_mul_of_pos_left _ loops
  have product := rounded_mul (ofNat c.loops) (ofNat c.interval)
  rw [value_ofNat (by omega), value_ofNat (by omega), ← Nat.cast_mul] at product
  have micros := product.value_eq (by rw [← runtime]; omega)
  have million : (ofNat 1000000).value = 10 ^ 6 := by
    rw [value_ofNat (by decide)]
    norm_num
  have quotient := rounded_div ((ofNat c.loops).mul (ofNat c.interval)) (ofNat 1000000) (by rw [million]; norm_num)
  rwa [micros, million] at quotient

theorem nominalSeconds_near :
    (c.runtime : ℚ) / 10 ^ 6 * (1 - 1 / 2 ^ 53) ≤ c.nominalSeconds.value ∧
      c.nominalSeconds.value ≤ (c.runtime : ℚ) / 10 ^ 6 * (1 + 1 / 2 ^ 53) := by
  obtain ⟨below, above⟩ := abs_le.mp (nominalSeconds_rounded loops interval bound).near
  constructor <;> linarith

omit loops interval in
theorem runtime_le : (c.runtime : ℚ) ≤ 10 ^ 14 := by exact_mod_cast bound

/-- A half second that 110% of the runtime reaches is reached by 110% of the rounded seconds. A half
second that is met exactly is one of a runtime in multiples of five seconds, which is kept; any other is
passed by at least a part in `10 ^ 7` of a second. -/
theorem half_le_seconds {k : Nat} (reached : 10 ^ 7 * k ≤ 11 * c.runtime + 5 * 10 ^ 6) :
    (2 * k - 1 : ℚ) / 2 ≤ c.nominalSeconds.value * (11 / 10) := by
  have long := runtime_le bound
  obtain passed | met := reached.lt_or_eq
  · -- The part in 10 ^ 7 is more than the division takes off 1.1 * 10 ^ 8 seconds.
    have passed : (10 ^ 7 * k + 1 : ℚ) ≤ 11 * c.runtime + 5 * 10 ^ 6 := by exact_mod_cast passed
    have near := (nominalSeconds_near loops interval bound).1
    linarith
  · obtain ⟨m, five⟩ : ∃ m, c.runtime = 10 ^ 6 * (5 * m) := ⟨c.runtime / (5 * 10 ^ 6), by omega⟩
    have whole : (c.runtime : ℚ) / 10 ^ 6 = (5 * m : Nat) := by
      rw [five, Nat.cast_mul]
      norm_num
    have seconds := nominalSeconds_rounded loops interval bound
    rw [whole] at seconds
    rw [seconds.value_eq (by omega), ← whole]
    have met : (10 ^ 7 * k : ℚ) = 11 * c.runtime + 5 * 10 ^ 6 := by exact_mod_cast met
    linarith

omit loops interval bound in
theorem seconds_le_product :
    c.nominalSeconds.value * (11 / 10) ≤ c.nominalSeconds.value * loadMargin.value := by
  apply mul_le_mul_of_nonneg_left _ (value_nonneg _)
  rw [loadMargin_value]
  norm_num

theorem half_le_product {k : Nat} (reached : 10 ^ 7 * k ≤ 11 * c.runtime + 5 * 10 ^ 6) :
    (2 * k - 1 : ℚ) / 2 ≤ c.nominalSeconds.value * loadMargin.value :=
  (half_le_seconds loops interval bound reached).trans seconds_le_product

theorem product_le : c.nominalSeconds.value * loadMargin.value ≤
    11 * (c.runtime : ℚ) / 10 ^ 7 * (1 + 1 / 2 ^ 52) := by
  have product := mul_le_mul_of_nonneg_right (nominalSeconds_near loops interval bound).2 (value_nonneg loadMargin)
  have nonneg : (0 : ℚ) ≤ c.runtime := Nat.cast_nonneg _
  rw [loadMargin_value] at *
  linarith

omit loops interval bound in
theorem missed_by {k : Nat} (missed : 11 * c.runtime + 5 * 10 ^ 6 < 10 ^ 7 * k) :
    (11 * c.runtime + 5 * 10 ^ 6 + 1 : ℚ) ≤ 10 ^ 7 * k := by
  exact_mod_cast missed

/-- A half second that 110% of the runtime misses, it misses by too much for the roundings before the
product. -/
theorem product_lt_half {k : Nat} (missed : 11 * c.runtime + 5 * 10 ^ 6 < 10 ^ 7 * k) :
    c.nominalSeconds.value * loadMargin.value < (2 * k - 1 : ℚ) / 2 := by
  have long := runtime_le bound
  have missed := missed_by missed
  have product := product_le loops interval bound
  linarith

/-- It misses it by too much for three roundings. -/
theorem margin_lt_half {k : Nat} (missed : 11 * c.runtime + 5 * 10 ^ 6 < 10 ^ 7 * k) :
    (c.nominalSeconds.mul loadMargin).value < (2 * k - 1 : ℚ) / 2 := by
  have long := runtime_le bound
  have missed := missed_by missed
  have near := (abs_le.mp (rounded_mul c.nominalSeconds loadMargin).near).2
  have product := product_le loops interval bound
  linarith

/-- Half seconds are on the grid of a product this small, so its rounding does not lose them. -/
theorem half_le_margin {k : Nat} (reached : 10 ^ 7 * k ≤ 11 * c.runtime + 5 * 10 ^ 6) :
    (2 * k - 1 : ℚ) / 2 ≤ (c.nominalSeconds.mul loadMargin).value := by
  obtain rfl | positive := Nat.eq_zero_or_pos k
  · exact le_trans (by norm_num) (value_nonneg _)
  · have half : ((2 * k - 1 : Nat) : ℚ) * 2 ^ (-1 : ℤ) = (2 * k - 1 : ℚ) / 2 := by
      rw [Nat.cast_sub (by omega)]
      push_cast
      ring
    have fine : c.nominalSeconds.value * loadMargin.value < 2 ^ (-1 + 53 : ℤ) := by
      have long := runtime_le bound
      have product := product_le loops interval bound
      norm_num
      linarith
    rw [← half]
    apply (rounded_mul _ _).le_value fine
    rw [half]
    exact half_le_product loops interval bound reached

/-- The nearest second is what it would be if nothing had been rounded, and the division, the margin and
the product each leave it as it is. -/
structure Undisturbed (c : ProbeConfig) (seconds : Nat) : Prop where
  unrounded : nearestSecond ((c.runtime : ℚ) / 10 ^ 6 * (11 / 10)) = seconds
  division : nearestSecond (c.nominalSeconds.value * (11 / 10)) = seconds
  margin : nearestSecond (c.nominalSeconds.value * loadMargin.value) = seconds
  product : nearestSecond (c.nominalSeconds.mul loadMargin).value = seconds

theorem undisturbed : Undisturbed c ((11 * c.runtime + 5 * 10 ^ 6) / 10 ^ 7) where
  unrounded := by
    apply nearestSecond_eq (by positivity)
    · intro k reached
      have reached : (10 ^ 7 * k : ℚ) ≤ 11 * c.runtime + 5 * 10 ^ 6 := by exact_mod_cast reached
      linarith
    · intro k missed
      have missed := missed_by missed
      linarith
  division := by
    apply nearestSecond_eq (mul_nonneg (value_nonneg _) (by norm_num))
    · exact fun _ => half_le_seconds loops interval bound
    · intro k missed
      exact seconds_le_product.trans_lt (product_lt_half loops interval bound missed)
  margin := by
    apply nearestSecond_eq (mul_nonneg (value_nonneg _) (value_nonneg _))
    · exact fun _ => half_le_product loops interval bound
    · exact fun _ => product_lt_half loops interval bound
  product := by
    apply nearestSecond_eq (value_nonneg _)
    · exact fun _ => half_le_margin loops interval bound
    · exact fun _ => margin_lt_half loops interval bound

end Runtime

/-- 110% of the runtime to the nearest second, as if nothing before had been rounded. -/
theorem margin_round {c : ProbeConfig} (valid : c.validate = .ok ()) (bound : c.runtime ≤ 10 ^ 14) :
    (c.nominalSeconds.mul loadMargin).round = (11 * c.runtime + 5 * 10 ^ 6) / 10 ^ 7 := by
  obtain ⟨interval, -, loops⟩ := validate_eq_ok_iff.mp valid
  rw [← nearestSecond_value]
  exact (undisturbed (Nat.pos_of_ne_zero loops) (Nat.pos_of_ne_zero interval) bound).product

/-- The timeout is 110% of the runtime to the nearest second, a half going up, and at least a second. No
rounding on the way to it is felt. -/
theorem loadTimeout_exact (c : ProbeConfig) (loops : 1 ≤ c.loops) (interval : 1 ≤ c.interval)
    (bound : c.runtime ≤ 10 ^ 14) :
    c.loadTimeout = max 1 ((11 * c.runtime + 5 * 10 ^ 6) / 10 ^ 7) ∧
      Undisturbed c ((11 * c.runtime + 5 * 10 ^ 6) / 10 ^ 7) := by
  have exact := undisturbed loops interval bound
  refine ⟨?_, exact⟩
  rw [loadTimeout, ← nearestSecond_value, exact.product, Text.wordLimit]
  omega

/-- A runtime of more than `seconds` whole seconds, but by so little that 110% of it is still rounded
down to that many. -/
structure CutShort (seconds micros : Nat) : Prop where
  positive : 1 ≤ seconds
  past : seconds * 10 ^ 6 < micros
  down : 11 * micros < (10 * seconds + 5) * 10 ^ 6

/-- From five seconds on, 10% are at least the half second that rounding takes. -/
theorem CutShort.below_five (cut : CutShort seconds micros) : seconds < 5 := by
  have := cut.past
  have := cut.down
  omega

/-- The load is told to run for at least as long as the probe, unless the runtime is cut short; then it
stops after the whole seconds, less than 4/11 of a second before the probe. -/
theorem loadTimeout_covers (c : ProbeConfig) (valid : c.validate = .ok ()) (bound : c.runtime ≤ 10 ^ 14) :
    (c.runtime ≤ c.loadTimeout * 10 ^ 6 ↔ ¬∃ seconds, CutShort seconds c.runtime) ∧
    ∀ seconds, CutShort seconds c.runtime →
      c.loadTimeout = seconds ∧ seconds < 5 ∧ 11 * c.runtime < 11 * (seconds * 10 ^ 6) + 4 * 10 ^ 6 := by
  have timeout : c.loadTimeout = max 1 ((11 * c.runtime + 5 * 10 ^ 6) / 10 ^ 7) := by
    rw [loadTimeout, margin_round valid bound, Text.wordLimit]
    omega
  have stops : ∀ seconds, CutShort seconds c.runtime → c.loadTimeout = seconds := by
    rintro seconds ⟨positive, past, down⟩
    omega
  refine ⟨⟨?_, ?_⟩, ?_⟩
  · rintro covered ⟨seconds, cut⟩
    rw [stops seconds cut] at covered
    exact cut.past.not_ge covered
  · intro notCut
    by_contra short
    exact notCut ⟨c.loadTimeout, c.loadTimeout_pos, by omega, by omega⟩
  · intro seconds cut
    have down := cut.down
    have positive := cut.positive
    exact ⟨stops seconds cut, cut.below_five, by omega⟩

end ProbeConfig

def minuteProbe : ProbeConfig := ⟨⟨.realTime, 80⟩, 10000, 1, 6000, .all⟩

theorem loadTimeout_covers_minute : minuteProbe.runtime ≤ minuteProbe.loadTimeout * 10 ^ 6 := by
  apply (minuteProbe.loadTimeout_covers rfl (by decide)).1.mpr
  rintro ⟨seconds, cut⟩
  have below := cut.below_five
  have past : 11 * 60000000 < (10 * seconds + 5) * 10 ^ 6 := cut.down
  omega

/-- Five seconds, 110% of which end in a half, on no thread. -/
def tiedProbe : ProbeConfig := ⟨⟨.realTime, 80⟩, 1000000, 0, 5, .all⟩

theorem loadTimeout_exact_tie : 1 ≤ tiedProbe.loops ∧ 1 ≤ tiedProbe.interval ∧
    tiedProbe.runtime ≤ 10 ^ 14 ∧ tiedProbe.loadTimeout = 6 ∧ tiedProbe.Undisturbed 6 := by
  have exact := tiedProbe.loadTimeout_exact (by decide) (by decide) (by decide)
  have seconds : (11 * tiedProbe.runtime + 5 * 10 ^ 6) / 10 ^ 7 = 6 := by decide
  rw [seconds] at exact
  exact ⟨by decide, by decide, by decide, exact⟩

def briefProbe : ProbeConfig := ⟨⟨.realTime, 80⟩, 1, 1, 1000001, .all⟩

theorem loadTimeout_short_brief : briefProbe.validate = .ok () ∧ briefProbe.runtime ≤ 10 ^ 14 ∧
    ¬briefProbe.runtime ≤ briefProbe.loadTimeout * 10 ^ 6 := by
  decide +kernel

end SchedLatency
