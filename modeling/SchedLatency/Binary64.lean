/-! Non-negative numbers in binary floating point with a significand of 53 bits. An operation is the
exact one on ratios followed by one rounding to the nearest such number, a tie going to the even
significand. Exponents are not bounded: nothing that is computed here comes near the limits of the
64-bit format, so `bits` can give the word of that format. -/
namespace SchedLatency

/-- Stands for `significand * 2 ^ exponent`. -/
structure Binary64 where
  significand : Nat
  exponent : Int
  deriving DecidableEq, Repr

/-- The integer nearest to a ratio; a tie goes to the even one. -/
def divEven (num den : Nat) : Nat :=
  let q := num / den
  let r := num % den
  if 2 * r < den then q else if den < 2 * r then q + 1 else q + q % 2

/-- The integer nearest to a ratio; a tie goes up. -/
def divUp (num den : Nat) : Nat := (2 * num + den) / (2 * den)

namespace Binary64

def num (x : Binary64) : Nat := x.significand <<< x.exponent.toNat

def den (x : Binary64) : Nat := 1 <<< (-x.exponent).toNat

/-- The exponent that gives `n / d` a significand of 53 bits. -/
def exponentOf (n d : Nat) : Int :=
  let low : Int := n.log2 - d.log2 - 53
  if n <<< (-low).toNat < d <<< (low.toNat + 53) then low else low + 1

def ofRatio (n d : Nat) : Binary64 :=
  if n = 0 then ⟨0, 0⟩
  else
    let e := exponentOf n d
    ⟨divEven (n <<< (-e).toNat) (d <<< e.toNat), e⟩

def ofNat (n : Nat) : Binary64 := ofRatio n 1

def mul (x y : Binary64) : Binary64 := ofRatio (x.num * y.num) (x.den * y.den)

def div (x y : Binary64) : Binary64 := ofRatio (x.num * y.den) (x.den * y.num)

def round (x : Binary64) : Nat := divUp x.num x.den

/-- The word of the 64-bit format. Rounding up to `2 ^ 53` carries into the exponent. -/
def bits (x : Binary64) : Nat :=
  if x.significand = 0 then 0
  else (x.exponent + 1074).toNat <<< 52 + x.significand

theorem den_pos (x : Binary64) : 0 < x.den := by
  rw [den, Nat.one_shiftLeft]
  exact Nat.two_pow_pos _

end Binary64
end SchedLatency
