/-!
Decimal numerals. Numbers are written without leading zeros unless a width asks for them, and read
back from ASCII digits alone: a numeral needs at least one digit, may start with zeros, and an
integer may carry one sign, `+` or `-`, directly before its digits.
-/

namespace TransactionKit.Text

/-- The number that a run of decimal digits denotes. -/
def natOfDigits (digits : List Char) : Nat :=
  digits.foldl (fun n c => 10 * n + (c.toNat - '0'.toNat)) 0

/-- The value of a digit of a base up to sixteen, in either case. -/
def figure (c : Char) : Nat :=
  if c.isDigit then c.toNat - '0'.toNat
  else if 'a' ≤ c ∧ c ≤ 'f' then c.toNat - 'a'.toNat + 10
  else c.toNat - 'A'.toNat + 10

/-- Whether a character is a digit of a base up to sixteen. -/
def isFigure (base : Nat) (c : Char) : Bool :=
  (c.isDigit || ('a' ≤ c && c ≤ 'f') || ('A' ≤ c && c ≤ 'F')) && decide (figure c < base)

/-- The number that a run of digits of a base denotes. -/
def natOfBase (base : Nat) (digits : List Char) : Nat :=
  digits.foldl (fun n c => base * n + figure c) 0

/-- The number written as a non-empty run of ASCII digits. -/
def nat? (cs : List Char) : Option Nat :=
  if cs.isEmpty || !cs.all Char.isDigit then none else some (natOfDigits cs)

/-- The integer written as an optional sign and a non-empty run of ASCII digits. -/
def int? : List Char → Option Int
  | '-' :: digits => (nat? digits).map fun n => -(n : Int)
  | '+' :: digits => (nat? digits).map fun n => (n : Int)
  | digits => (nat? digits).map fun n => (n : Int)

example : int? "-012".toList = some (-12) ∧ int? "+7".toList = some 7 := by decide +kernel

/-- The list `s` widened on the left to at least `width` characters. -/
def padLeft (fill : Char) (width : Nat) (s : List Char) : List Char :=
  List.replicate (width - s.length) fill ++ s

/-- The decimal digits of `n`, widened with zeros to at least `width` digits. -/
def zeroPadded (width n : Nat) : List Char :=
  padLeft '0' width (Nat.toDigits 10 n)

/-- Two lower-case hexadecimal digits per byte. -/
def hexOfBytes (bytes : List UInt8) : String :=
  String.ofList (bytes.flatMap fun b => padLeft '0' 2 (Nat.toDigits 16 b.toNat))

/-- The bytes that pairs of hexadecimal digits denote; a digit left over is ignored. -/
def bytesOfHex : List Char → List UInt8
  | a :: b :: rest => UInt8.ofNat (natOfBase 16 [a, b]) :: bytesOfHex rest
  | _ => []

end TransactionKit.Text
