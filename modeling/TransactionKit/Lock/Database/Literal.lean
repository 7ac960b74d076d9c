import TransactionKit.Decimal.Range
import TransactionKit.Decimal.Reading
import TransactionKit.Decimal.Shortest
import TransactionKit.Lock.Database
import TransactionKit.Text.Quoted
import TransactionKit.Text.Reader

/-!
Literals of statements: texts between apostrophes, bytes in hexadecimal, truth values, and numbers.
A number with a point or an exponent is real, any other one an integer where sixty-four bits are
enough. Signs stand before a number, blanks and comments between all words. A column converts what
is put into it where that loses nothing, and keeps it as it is otherwise; so a column of integers
can hold a text that is no numeral, and every column a string of bytes.
-/

namespace TransactionKit

namespace Database

namespace Reader

open Text (Reader)
open Text.Reader

/-! ## Words -/

/-- Whether a character parts words. -/
def isGap (c : Char) : Bool :=
  c = ' ' || ('\t' ≤ c && c ≤ '\r')

/-- What follows the end of a comment that was opened by a slash and a star. -/
def afterComment : List Char → List Char
  | '*' :: '/' :: rest => rest
  | _ :: rest => afterComment rest
  | [] => []

/-- Read blanks, or one comment: to the end of its line, or between its two marks. -/
def gap : Reader Unit :=
  discard (takeWhile1 isGap) <|>
  (do exactly "--".toList; discard (takeWhile fun c => c != '\n')) <|>
  (do exactly "/*".toList; fun cs => some ((), afterComment cs))

/-- Read something after the blanks and comments before it. -/
def token {α : Type} (r : Reader α) : Reader α := do
  discard (all gap)
  r

/-- Read one given mark. -/
def symbol (c : Char) : Reader Unit :=
  token (mark c)

/-- Whether a character can stand in a word. -/
def isWordChar (c : Char) : Bool :=
  c.isAlphanum || c == '_' || c == '$' || 0x80 ≤ c.toNat

/-- Read a word, which has no case. -/
def word : Reader String :=
  token do return (String.ofList (← takeWhile1 isWordChar)).toUpper

/-- Read a given word. -/
def keyword (expected : String) : Reader Unit := do
  guard ((← word) = expected)

/-- Read a name: a word, or a text between double quotes. -/
def name : Reader String :=
  word <|> token do return (String.ofList (← Text.Quoting.read? ⟨'"', false⟩)).toUpper

/-- Read a list of items between parentheses. -/
def parenthesized {α : Type} (item : Reader α) : Reader (List α) := do
  symbol '('
  let items ← separated item (symbol ',')
  symbol ')'
  return items

/-! ## Numbers -/

/-- An integer, as a real number if sixty-four bits are not enough for it. -/
def integerCell (n : Int) : Cell :=
  if IsInt64 n then .integer n else .real (.ofInt n)

/-- Read the exponent of a numeral. -/
def exponent : Reader Int := do
  let _ ← one fun c => c = 'e' || c = 'E'
  let sign? ← maybe (one fun c => c = '+' || c = '-')
  let n : Int := Text.natOfDigits (← takeWhile1 Char.isDigit)
  return if sign? = some '-' then -n else n

/-- Read a decimal numeral, whose sign is known. It needs a digit before or after its point. -/
def decimal (negative : Bool) : Reader Cell := do
  let whole ← takeWhile Char.isDigit
  let part? ← maybe (do mark '.'; takeWhile Char.isDigit)
  let part := part?.getD []
  guard !(whole.isEmpty && part.isEmpty)
  let exponent? ← maybe exponent
  if part?.isNone && exponent?.isNone then
    let n : Int := Text.natOfDigits whole
    return integerCell (if negative then -n else n)
  else
    return .real (.ofDecimal negative (whole ++ part) (exponent?.getD 0 - part.length))

/-- Read a decimal numeral with at most one sign directly before it. -/
def signed : Reader Cell := do
  let sign? ← maybe (one fun c => c = '+' || c = '-')
  decimal (sign? == some '-')

/-- Read a hexadecimal numeral, whose digits are the bits of an integer of sixty-four bits. -/
def hexadecimal (negative : Bool) : Reader Cell := do
  mark '0'
  let _ ← one fun c => c = 'x' || c = 'X'
  let bits := Text.natOfBase 16 (← takeWhile1 (Text.isFigure 16))
  guard (bits < pow2 64)
  let n := Int.bmod bits (pow2 64)
  return integerCell (if negative then -n else n)

/-- Read a numeral that does not run into a word. -/
def number (negative : Bool) : Reader Cell := do
  let cell ← hexadecimal negative <|> decimal negative
  fun cs => if cs.head?.any isWordChar then none else some (cell, cs)

/-! ## Literals -/

/-- How texts are quoted in a statement. -/
def quoting : Text.Quoting :=
  ⟨'\'', false⟩

/-- Read a text between apostrophes. -/
def textLiteral : Reader Cell := do
  return .text (String.ofList (← quoting.read?))

/-- Read bytes: pairs of hexadecimal digits between apostrophes after an `x`. -/
def blobLiteral : Reader Cell := do
  let _ ← one fun c => c = 'x' || c = 'X'
  let digits ← quoting.read?
  guard (digits.all (Text.isFigure 16) && digits.length % 2 == 0)
  return .blob (Text.bytesOfHex digits)

/-- Read a truth value, which is an integer. -/
def truthLiteral : Reader Cell :=
  (do keyword "TRUE"; return .integer 1) <|> (do keyword "FALSE"; return .integer 0)

/-- Read a literal. Any number of signs may stand before it; a minus only before a number. -/
def literal : Reader Cell := do
  let signs ← all (token (one fun c => c = '+' || c = '-'))
  if signs.contains '-' then token (number (signs.count '-' % 2 == 1))
  else token (textLiteral <|> blobLiteral <|> truthLiteral <|> number false)

example : literal.whole? "/* one */ + 0x1F".toList = some (.integer 31) := by decide +kernel
example : literal.whole? "X''".toList = some (.blob []) ∧ literal.whole? "x'0'".toList = none := by
  decide +kernel

end Reader

/-! ## Columns -/

/-- The columns of a lock table. -/
inductive Column where
  | key
  | created
  | owner
  | description
deriving DecidableEq, Repr, Inhabited

/-- The columns in the order of the table. -/
def columns : List Column :=
  [.key, .created, .owner, .description]

/-- The column of a name in upper case. -/
def Column.ofName? : String → Option Column
  | "KEY" => some key
  | "CREATED" => some created
  | "OWNER" => some owner
  | "OWNER_STR" => some description
  | _ => none

/-- A real number as an integer where it is one and lies strictly inside of sixty-four bits. -/
def integral : Cell → Cell
  | .real x =>
    match x.integer? with
    | some n => if n.natAbs < pow2 63 then .integer n else .real x
    | none => .real x
  | cell => cell

/-- The number that the whole of a text writes, blanks around it aside. -/
def numberOfText? (s : String) : Option Cell :=
  let trimmed := ((s.toList.dropWhile Reader.isGap).reverse.dropWhile Reader.isGap).reverse
  Text.Reader.whole? Reader.signed trimmed

/-- What a column of integers makes of a cell. -/
def inIntegerColumn : Cell → Cell
  | .text s => ((numberOfText? s).map integral).getD (.text s)
  | cell => integral cell

/-- The text of a real number, which shows that it is real. -/
def realText (x : Binary64) : String :=
  if x.integer?.isSome then x.text ++ ".0" else x.text

/-- What a column of texts makes of a cell. -/
def inTextColumn : Cell → Cell
  | .integer n => .text (toString n)
  | .real x => .text (realText x)
  | cell => cell

/-- The row of some cells, of which the first one for a column counts; keys are texts. -/
def rowOfCells? (cells : List (Column × Cell)) : Option Row := do
  let key ← cells.lookup .key
  let created ← cells.lookup .created
  let owner ← cells.lookup .owner
  let description ← cells.lookup .description
  match inTextColumn key with
  | .text key =>
    return ⟨key, inIntegerColumn created, inTextColumn owner, inTextColumn description⟩
  | _ => none

example : inIntegerColumn (.text " 1e3 ") = .integer 1000 ∧
    inIntegerColumn (.text "abc") = .text "abc" ∧
    inIntegerColumn (.text "0x10") = .text "0x10" := by decide +kernel

end Database

end TransactionKit
