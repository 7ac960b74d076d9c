import TransactionKit.Decimal.Binary64
import TransactionKit.Text.Blank
import TransactionKit.Text.Numeral

/-!
Reading a double from its decimal text: an optional sign, then either digits with at most one
point among or beside them and an optional exponent, or one of the names of infinity and of the
pattern without a number in any case. The exact decimal is rounded once, to the nearest double.
-/

namespace TransactionKit

namespace Binary64

/-- The double nearest to `digits · 10 ^ exponent`. Decimals whose first digit stands far beyond
the range of doubles are infinite or zero without computing the power. -/
def ofDecimal (negative : Bool) (digits : List Char) (exponent : Int) : Binary64 :=
  let n := Text.natOfDigits digits
  let leading : Int := (Nat.toDigits 10 n).length + exponent
  if n = 0 then ofWord negative 0
  else if 400 < leading then infinity negative
  else if leading < -400 then ofWord negative 0
  else ofRatio negative (n * pow10 exponent.toNat) (pow10 (-exponent).toNat)

/-- The exponent of a decimal: nothing, or `e` and a signed integer. -/
def exponent? : List Char → Option Int
  | [] => some 0
  | c :: rest => if c = 'e' ∨ c = 'E' then Text.int? rest else none

/-- A decimal without its sign. -/
def unsigned? (negative : Bool) (cs : List Char) : Option Binary64 :=
  let whole := cs.takeWhile Char.isDigit
  let afterWhole := cs.dropWhile Char.isDigit
  let (part, tail) :=
    match afterWhole with
    | '.' :: more => (more.takeWhile Char.isDigit, more.dropWhile Char.isDigit)
    | _ => ([], afterWhole)
  if whole.isEmpty && part.isEmpty then none
  else (exponent? tail).map fun e => ofDecimal negative (whole ++ part) (e - part.length)

/-- A name or a decimal, with its sign already read. -/
def magnitude? (negative : Bool) (cs : List Char) : Option Binary64 :=
  let name := cs.map Text.lowerChar
  if name = "inf".toList ∨ name = "infinity".toList then some (infinity negative)
  else if name = "nan".toList then some nan
  else unsigned? negative cs

/-- Read a double from the whole of a text. -/
def read? : List Char → Option Binary64
  | '-' :: cs => magnitude? true cs
  | '+' :: cs => magnitude? false cs
  | cs => magnitude? false cs

example : read? ".".toList = none ∧ read? "1e".toList = none ∧ read? "1_0".toList = none := by
  decide +kernel

end Binary64

end TransactionKit
