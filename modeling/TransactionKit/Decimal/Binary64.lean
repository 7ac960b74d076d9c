import TransactionKit.Decimal.Power

/-!
Double-precision numbers as bit patterns. A finite pattern stands for the exact number
`± significand · 2 ^ exponent`; everything here is read off the bits in integer arithmetic, so that
a statement about a double is a statement about two integers. `ofRatio` rounds an exact quotient
to the nearest double, a tie to the even significand.
-/

namespace TransactionKit

/-- A double-precision number: one sign bit, eleven exponent bits, fifty-two fraction bits. -/
structure Binary64 where
  bits : UInt64
deriving DecidableEq, Repr, Inhabited

namespace Binary64

/-- Whether the sign bit is set; it is set on negative zero too. -/
def isNegative (x : Binary64) : Bool :=
  pow2 63 ≤ x.bits.toNat

/-- The biased exponent. -/
def exponentField (x : Binary64) : Nat :=
  x.bits.toNat / pow2 52 % pow2 11

/-- The fraction bits. -/
def fraction (x : Binary64) : Nat :=
  x.bits.toNat % pow2 52

/-- Whether the pattern stands for a number. -/
def isFinite (x : Binary64) : Bool :=
  x.exponentField != 2047

/-- Whether the pattern stands for no number and no infinity. -/
def isNaN (x : Binary64) : Bool :=
  x.exponentField == 2047 && x.fraction != 0

/-- The integer significand: the fraction, with the hidden bit on normal numbers. -/
def significand (x : Binary64) : Nat :=
  if x.exponentField = 0 then x.fraction else pow2 52 + x.fraction

/-- The power of two that multiplies the significand. -/
def exponent (x : Binary64) : Int :=
  (max 1 x.exponentField : Nat) - 1075

/-- The magnitude as a quotient of natural numbers, for a finite pattern. -/
def magnitude (x : Binary64) : Nat × Nat :=
  (x.significand * pow2 x.exponent.toNat, pow2 (-x.exponent).toNat)

/-- The number itself when it is an integer. -/
def integer? (x : Binary64) : Option Int :=
  let (num, den) := x.magnitude
  if x.isFinite ∧ num % den = 0 then
    let n : Int := num / den
    some (if x.isNegative then -n else n)
  else none

/-- The pattern with a given sign and the remaining sixty-three bits `word`. -/
def ofWord (negative : Bool) (word : Nat) : Binary64 :=
  ⟨UInt64.ofNat ((if negative then pow2 63 else 0) + word)⟩

/-- The bits of infinity, sign aside: the least pattern above every finite one. -/
def infinityWord : Nat :=
  2047 * pow2 52

/-- The infinity of a given sign. -/
def infinity (negative : Bool) : Binary64 :=
  ofWord negative infinityWord

/-- The quiet pattern that stands for no number. -/
def nan : Binary64 :=
  ofWord false (infinityWord + pow2 51)

/-- The quotient `num / den` to the nearest natural number, a half to the even one. -/
def roundHalfEven (num den : Nat) : Nat :=
  let quotient := num / den
  let twice := 2 * (num % den)
  if twice < den then quotient
  else if den < twice then quotient + 1
  else quotient + quotient % 2

/-- The greatest `k` with `2 ^ k ≤ num / den`, for positive `num` and `den`. -/
def floorLog2 (num den : Nat) : Int :=
  let k : Int := (num.log2 : Int) - den.log2
  if den * pow2 k.toNat ≤ num * pow2 (-k).toNat then k else k - 1

/-- The double nearest to `num / den`, a tie to the even significand; a quotient that rounds past
the greatest finite double is infinite. A significand that rounds up to the next power of two
carries into the exponent field by plain addition. -/
def ofRatio (negative : Bool) (num den : Nat) : Binary64 :=
  if num = 0 then ofWord negative 0
  else
    let unit : Int := max (-1074) (floorLog2 num den - 52)
    let significand := roundHalfEven (num * pow2 (-unit).toNat) (den * pow2 unit.toNat)
    ofWord negative (min infinityWord ((unit + 1074).toNat * pow2 52 + significand))

/-- The double nearest to an integer. -/
def ofInt (i : Int) : Binary64 :=
  ofRatio (i < 0) i.natAbs 1

example : ofRatio false 1 10 = ⟨0x3FB999999999999A⟩ := by decide +kernel
example : ofInt (pow2 53 + 1) = ofInt (pow2 53) := by decide +kernel

end Binary64

end TransactionKit
