import TransactionKit.Decimal.Binary64

/-!
The shortest decimal text of a double. Among the decimals that round back to the double, those on
the coarsest grid `j · 10 ^ e` have the fewest digits; of the two neighbours of the double on that
grid the nearer one is written, the greater one when both are equally near. The digits are laid
out positionally, whatever the exponent, without a fraction when the number is an integer.
-/

namespace TransactionKit

namespace Binary64

/-- A number of the form `num / den · 2 ^ twos`, measured on the decimal grid `10 ^ e`: the
quotient as a pair of natural numbers. -/
def onGrid (num : Nat) (twos e : Int) : Nat × Nat :=
  (num * pow2 twos.toNat * pow10 (-e).toNat, pow2 (-twos).toNat * pow10 e.toNat)

/-- The reals that round to a positive finite double, as multiples of a quarter of its unit in the
last place: lower end, the double itself, upper end. Below a power of two the gap is half as
wide. -/
def quarters (x : Binary64) : Nat × Nat × Nat :=
  let m := x.significand
  let low := if m = pow2 52 ∧ 1 < x.exponentField then 4 * m - 1 else 4 * m - 2
  (low, 4 * m, 4 * m + 2)

/-- Whether `j · 10 ^ e` rounds to the double `x`. The ends of the interval belong to it exactly
when the significand is even. -/
def hits (x : Binary64) (e : Int) (j : Nat) : Bool :=
  let (low, _, high) := x.quarters
  let twos := x.exponent - 2
  let (lowNum, den) := onGrid low twos e
  let (highNum, _) := onGrid high twos e
  if x.significand % 2 = 0 then lowNum ≤ j * den && j * den ≤ highNum
  else lowNum < j * den && j * den < highNum

/-- The multiple of `10 ^ e` to write for `x` if one of its two neighbours on that grid rounds to
`x`. -/
def nearestHit? (x : Binary64) (e : Int) : Option Nat :=
  let (num, den) := onGrid x.quarters.2.1 (x.exponent - 2) e
  let below := num / den
  let twice := 2 * (num % den)
  match x.hits e below, x.hits e (below + 1) with
  | true, true => some (if twice < den then below else below + 1)
  | true, false => some below
  | false, true => some (below + 1)
  | false, false => none

/-- The first hit on the grids `10 ^ e`, `10 ^ (e - 1)`, … and its grid; after `steps` grids the
multiple below the number. -/
def coarsestHit (x : Binary64) : (steps : Nat) → (e : Int) → Nat × Int
  | 0, e =>
    let (num, den) := onGrid x.significand x.exponent e
    (num / den, e)
  | steps + 1, e =>
    match x.nearestHit? e with
    | some j => (j, e)
    | none => x.coarsestHit steps (e - 1)

/-- The shortest decimal `j · 10 ^ e` of a positive finite double. The search starts on a grid
wider than the double and is bound to end on the grid where the double itself is a point. -/
def shortest (x : Binary64) : Nat × Int :=
  let start := (x.significand.log2 + 1 + x.exponent) * 30103 / 100000 + 2
  x.coarsestHit (start - min x.exponent 0).toNat start

/-- The digits of `j · 10 ^ e` in positional notation. -/
def positional (j : Nat) (e : Int) : List Char :=
  let digits := Nat.toDigits 10 j
  if 0 ≤ e then digits ++ List.replicate e.toNat '0'
  else
    let places := (-e).toNat
    if places < digits.length then
      digits.take (digits.length - places) ++ '.' :: digits.drop (digits.length - places)
    else '0' :: '.' :: List.replicate (places - digits.length) '0' ++ digits

/-- The text of a double: the shortest decimal that rounds back to it, the sign also on negative
zero; infinities and the pattern without a number have names. -/
def text (x : Binary64) : String :=
  if x.isNaN then "NaN"
  else
    let sign := if x.isNegative then ['-'] else []
    let body :=
      if !x.isFinite then "inf".toList
      else if x.significand = 0 then ['0']
      else
        let (j, e) := x.shortest
        positional j e
    String.ofList (sign ++ body)

example : text (ofRatio false 3 10) = "0.3" ∧ text (ofInt (-1500)) = "-1500" := by decide +kernel

end Binary64

end TransactionKit
