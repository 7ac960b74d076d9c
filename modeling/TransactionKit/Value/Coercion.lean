import TransactionKit.Calendar.Reading
import TransactionKit.Decimal.Range
import TransactionKit.Decimal.Reading
import TransactionKit.Value

/-!
Coercions: the integer, floating point, truth and date views of a value that the rendering kinds
are built on. A view is missing when the value has no counterpart of that sort. Numbers in text
are read with blanks around them allowed.
-/

namespace TransactionKit

namespace Value

/-- The integer view, always of 64 bits. An integral double beyond that range counts as the end
of the range next to it; a numeral beyond it has no integer view. -/
def integer? : Value → Option Int
  | int i => some i.toInt
  | long i => some i.toInt
  | char c => some c.toNat
  | bool b => some (if b then 1 else 0)
  | enumeration ordinal _ => some ordinal.toNat
  | float x => x.integer?.map clampInt64
  | decimal s | text s | raw s =>
    (Text.int? (Text.trimList s.toList)).filter fun i => decide (IsInt64 i)
  | null | date _ | timestamp _ | bytes _ | array _ => none

/-- The floating point view. -/
def float? : Value → Option Binary64
  | float x => some x
  | decimal s | text s | raw s => Binary64.read? (Text.trimList s.toList)
  | other => other.integer?.map Binary64.ofInt

def trueWords : List String :=
  ["true", "yes", "1"]

def falseWords : List String :=
  ["false", "no", "0"]

/-- The truth view: text by a few words in any case, numbers by whether they are zero. -/
def bool? : Value → Option Bool
  | bool b => some b
  | text s | raw s =>
    let word := Text.lower (Text.trim s)
    if trueWords.contains word then some true
    else if falseWords.contains word then some false
    else none
  | other => other.integer?.map fun i => decide (i ≠ 0)

/-- The date view. -/
def timestamp? : Value → Option Timestamp
  | timestamp t => some t
  | date d => some (.ofDate d)
  | text s => Timestamp.read? s
  | _ => none

example : integer? (.text " +12 ") = some 12 ∧ integer? (.text "9223372036854775808") = none := by
  decide +kernel

end Value

end TransactionKit
