import TransactionKit.Calendar.Date
import TransactionKit.Config.Document
import TransactionKit.Decimal.Range
import TransactionKit.Decimal.Reading
import TransactionKit.Text.Reader

/-!
Reading a TOML document. Readers take what they read from the front of a text or fail; a document
is read statement by statement, each on lines of its own. Lists and tables in values nest at most
seventy-nine levels, and a dotted key has at most seventy-nine parts.
-/

namespace TransactionKit

namespace Document

namespace Reader

open Text (Reader)
open Text.Reader

/-- The greatest number of parts of a key, and of levels of a value. -/
def depthLimit : Nat := 79

/-- Whether a character is a blank inside a line. -/
def isLineBlank (c : Char) : Bool :=
  c = ' ' || c = '\t'

/-- Skip blanks inside a line. -/
def lineBlanks : Reader Unit := do
  discard (takeWhile isLineBlank)

/-- Read the end of a line. -/
def newline : Reader Unit :=
  mark '\n' <|> exactly ['\r', '\n']

/-- Whether a character may stand in a comment or a string: no control but the tab. -/
def isVisible (c : Char) : Bool :=
  c = '\t' || (0x20 ≤ c.toNat && c.toNat ≠ 0x7F)

/-- Read a comment up to the end of its line. -/
def comment : Reader Unit := do
  mark '#'
  discard (takeWhile isVisible)

/-- Read what may follow a statement on its line, and the end of the line or of the text. -/
def lineEnd : Reader Unit := do
  lineBlanks
  discard (maybe comment)
  newline <|> finished

/-- Skip blanks, comments and line ends between the elements of a list. -/
def gaps : Reader Unit := do
  discard (all (do discard (takeWhile1 isLineBlank) <|> newline <|> (do comment; newline)))

/-- Read an exact number of digits of a base. -/
def figures (base count : Nat) : Reader Nat := do
  return Text.natOfBase base (← takeExactly count (Text.isFigure base))

/-- Read the character that a code point of the given number of hexadecimal digits names. -/
def codePoint (count : Nat) : Reader Char := do
  let n ← figures 16 count
  if n.isValidChar then return Char.ofNat n else failure

/-- Read what follows the backslash of an escape. -/
def escape : Reader Char := do
  match ← one fun _ => true with
  | 'b' => return '\x08'
  | 't' => return '\t'
  | 'n' => return '\n'
  | 'f' => return '\x0c'
  | 'r' => return '\r'
  | '"' => return '"'
  | '\\' => return '\\'
  | 'u' => codePoint 4
  | 'U' => codePoint 8
  | _ => failure

/-- Read a string of one line between double quotes. -/
def basicString : Reader String := do
  mark '"'
  let cs ← all ((do mark '\\'; escape) <|> one fun c => isVisible c && c ≠ '"' && c ≠ '\\')
  mark '"'
  return String.ofList cs

/-- Read a string of one line between apostrophes, without escapes. -/
def literalString : Reader String := do
  mark '\''
  let cs ← takeWhile fun c => isVisible c && c ≠ '\''
  mark '\''
  return String.ofList cs

/-- Read a backslash that joins lines: with the blanks and line ends after it, at least one line
end among them, it stands for nothing. -/
def lineJoin : Reader (List Char) := do
  mark '\\'
  lineBlanks
  newline
  discard (all (discard (takeWhile1 isLineBlank) <|> newline))
  return []

/-- Read a piece of a string of several lines other than a quote. -/
def longPiece (quote : Char) : Reader (List Char) :=
  (if quote = '"' then lineJoin <|> (do mark '\\'; return [← escape]) else failure) <|>
    (do newline; return ['\n']) <|>
    (do return [← one fun c => isVisible c && c ≠ quote && (quote ≠ '"' || c ≠ '\\')])

/-- Read fewer than three quotes that do not end a string of several lines. -/
def innerQuotes (quote : Char) : Reader (List Char) :=
  fun cs =>
    let run := cs.takeWhile (· = quote)
    if run.isEmpty ∨ 3 ≤ run.length then none else some (run, cs.dropWhile (· = quote))

/-- Read a string of several lines between triple quotes. A line end right after the opening is
skipped, and up to two quotes may stand right before the closing. -/
def longString (quote : Char) : Reader String := do
  exactly [quote, quote, quote]
  discard (maybe newline)
  let pieces ← all (longPiece quote <|> innerQuotes quote)
  let closing ← takeWhile1 (· = quote)
  if 3 ≤ closing.length ∧ closing.length ≤ 5 then
    return String.ofList (pieces.flatten ++ closing.drop 3)
  else failure

/-- Read a string in any notation. -/
def string : Reader String :=
  longString '"' <|> longString '\'' <|> basicString <|> literalString

/-- Whether a character may stand in a key without quotes. -/
def isBareKey (c : Char) : Bool :=
  c.isAlphanum || c = '_' || c = '-'

def keyPart : Reader String :=
  basicString <|> literalString <|> (do return String.ofList (← takeWhile1 isBareKey))

/-- Read a dotted key with blanks around its parts: what leads to its last part, and the last
part. -/
def key : Reader (List String × String) := do
  let parts ← separated (do lineBlanks; let part ← keyPart; lineBlanks; return part) (mark '.')
  if parts.length ≤ depthLimit then return (parts.dropLast, parts.getLastD "") else failure

/-- Read digits of a base in which underscores may stand between two digits. -/
def groupedDigits (base : Nat) : Reader (List Char) := do
  let groups ← separated (takeWhile1 (Text.isFigure base)) (mark '_')
  return groups.flatten

/-- Read a sign, or none. -/
def sign : Reader (List Char) :=
  (do mark '+'; return ['+']) <|> (do mark '-'; return ['-']) <|> pure []

/-- Read the digits of a decimal integer, without leading zeros. -/
def decimalDigits : Reader (List Char) := do
  let digits ← groupedDigits 10
  if digits.length = 1 ∨ digits.head? ≠ some '0' then return digits else failure

/-- An integer of 64 bits, or a failure. -/
def integerOf (i : Int) : Reader Tree :=
  if IsInt64 i then return .integer i else failure

/-- Read an integer: decimal with a sign, or hexadecimal, octal or binary without one. -/
def integer : Reader Tree :=
  based 'x' 16 <|> based 'o' 8 <|> based 'b' 2 <|> do
    let s ← sign
    let n := Text.natOfBase 10 (← decimalDigits)
    integerOf (if s = ['-'] then -n else n)
where
  /-- Read an integer with the prefix of its base. -/
  based (letter : Char) (base : Nat) : Reader Tree := do
    exactly ['0', letter]
    integerOf (Text.natOfBase base (← groupedDigits base))

def exponent : Reader (List Char) := do
  mark 'e' <|> mark 'E'
  let s ← sign
  return 'e' :: s ++ (← groupedDigits 10)

def fraction : Reader (List Char) := do
  mark '.'
  return '.' :: (← groupedDigits 10)

/-- Read a number that is not an integer. A number beyond the doubles is refused when it is
positive. -/
def decimal : Reader Tree := do
  let s ← sign
  (do exactly "inf".toList <|> exactly "nan".toList; return .decimal) <|> do
    let whole ← decimalDigits
    let tail ← exponent <|> do
      let part ← fraction
      return part ++ (← maybe exponent).getD []
    if Binary64.read? (s ++ whole ++ tail) = some (.infinity false) then failure
    else return .decimal

/-- Read a number of exactly two digits between two bounds. -/
def twoDigits (low high : Nat) : Reader Nat := do
  let n ← figures 10 2
  if low ≤ n ∧ n ≤ high then return n else failure

def date : Reader Unit := do
  let year ← figures 10 4
  mark '-'
  let month ← twoDigits 1 12
  mark '-'
  let day ← twoDigits 1 31
  if day ≤ Calendar.daysInMonth year month then return () else failure

/-- Read a time of day. -/
def time : Reader Unit := do
  discard (twoDigits 0 23)
  mark ':'
  discard (twoDigits 0 59)
  mark ':'
  discard (twoDigits 0 60)
  discard (maybe (do mark '.'; takeWhile1 Char.isDigit))

/-- Read the distance of a time from universal time. -/
def offset : Reader Unit :=
  mark 'Z' <|> mark 'z' <|> do
    mark '+' <|> mark '-'
    discard (twoDigits 0 23)
    mark ':'
    discard (twoDigits 0 59)

/-- Read a date, a time, or a date with a time after a `T` or a space. -/
def moment : Reader Tree := do
  (do
    date
    discard (maybe (do
      mark 'T' <|> mark 't' <|> mark ' '
      time
      discard (maybe offset)))) <|> time
  return .moment

/-- Read a truth value. -/
def boolean : Reader Tree :=
  (do exactly "true".toList; return .boolean true) <|>
    (do exactly "false".toList; return .boolean false)

/-- Bind the keys of a table written between braces. -/
def inlineEntries (pairs : List ((List String × String) × Tree)) : Option Entries :=
  pairs.foldlM (fun entries pair => assign pair.1.1 pair.1.2 pair.2 entries) []

/-- Read a value whose lists and tables nest at most `depth` levels. -/
def value : (depth : Nat) → Reader Tree
  | 0 => scalar
  | depth + 1 =>
    (do
      mark '['
      let items ← maybe (separated (do gaps; let item ← value depth; gaps; return item)
        (mark ','))
      if items.isSome then discard (maybe (mark ','))
      gaps
      mark ']'
      return .list (items.getD [])) <|>
    (do
      mark '\x7b'
      let pairs ← maybe (separated
        (do
          let k ← key
          mark '='
          lineBlanks
          let tree ← value depth
          lineBlanks
          return (k, tree))
        (mark ','))
      lineBlanks
      mark '\x7d'
      return .inlined (← inlineEntries (pairs.getD []))) <|>
    scalar
where
  /-- Read a value that holds no others. -/
  scalar : Reader Tree :=
    (do return .text (← string)) <|> moment <|> decimal <|> integer <|> boolean

/-- What a statement does to a document whose last header is given: the header from then on and
the document. -/
abbrev Change := List String → Entries → Option (List String × Entries)

def header : Reader Change :=
  (do
    exactly ['[', '[']
    let (path, last) ← key
    exactly [']', ']']
    lineEnd
    return fun _ root => return (path ++ [last], ← openElement path last root)) <|>
  (do
    mark '['
    let (path, last) ← key
    mark ']'
    lineEnd
    return fun _ root => return (path ++ [last], ← openTable path last root))

def assignment : Reader Change := do
  let (path, last) ← key
  mark '='
  lineBlanks
  let tree ← value depthLimit
  lineEnd
  return fun current root => return (current, ← assignIn current path last tree root)

/-- Read a line without a statement. -/
def emptyLine : Reader Change := do
  newline <|> (do comment; newline <|> finished)
  return fun current root => some (current, root)

/-- Read a statement or an empty line, with the blanks before it. -/
def statement : Reader Change := do
  lineBlanks
  emptyLine <|> header <|> assignment

/-- Read all the statements of a document. -/
def statements : Reader (List Change) := do
  discard (maybe (mark '\ufeff'))
  let changes ← all statement
  lineBlanks
  finished
  return changes

end Reader

/-- The entries of a document at its top level; nothing if the text is no document. -/
def read? (text : String) : Option Entries := do
  let (changes, _) ← Reader.statements text.toList
  let (_, root) ← changes.foldlM (fun (current, root) change => change current root) ([], [])
  return root

end Document

end TransactionKit
