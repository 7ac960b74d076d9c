import TransactionKit.Calendar.Timestamp
import TransactionKit.Text.Blank
import TransactionKit.Text.Numeral
import TransactionKit.Text.Reader

/-!
Reading dates and times. A date is year, month and day with hyphens; a date with a time has a
space or a `T` between the two and may end in a fraction of a second. The reading is lenient in
the same places everywhere: blanks before a number are skipped, where a space separates the parts
any number of blanks will do, and numbers may be shorter than they are written. Only a year may
carry a sign, and only then may it have more than four digits. Second 60 is a leap second.
-/

namespace TransactionKit

namespace Calendar

namespace Reader

open Text (Reader)
open Text.Reader

/-- Skip blanks. -/
def blanks : Reader Unit :=
  fun cs => some ((), Text.trimStart cs)

/-- Read up to `width` digits, at least one. -/
def digits (width : Nat) : Reader Nat := do
  return Text.natOfDigits (← takeUpTo width Char.isDigit)

/-- Read all the digits there are, at least one. -/
def allDigits : Reader Nat := do
  return Text.natOfDigits (← takeWhile1 Char.isDigit)

/-- Skip blanks and read a number of up to `width` digits that lies between two bounds. -/
def number (width low high : Nat) : Reader Nat := do
  blanks
  let n ← digits width
  if low ≤ n ∧ n ≤ high then return n else failure

/-- Skip blanks and read a year: up to four digits, or a sign and any number of them. -/
def year : Reader Int := do
  blanks
  match ← get with
  | '-' :: cs =>
    set cs
    return -(← allDigits)
  | '+' :: cs =>
    set cs
    return (← allDigits)
  | _ => return (← digits 4)

def date : Reader Date := do
  let y ← year
  mark '-'
  let m ← number 2 1 12
  mark '-'
  let d ← number 2 1 31
  Date.of? y m d

/-- Read the digits of a fraction of a second as nanoseconds; those beyond the ninth are skipped. -/
def nanoseconds : Reader Nat := do
  let run ← takeWhile1 Char.isDigit
  return Text.natOfDigits ((run ++ List.replicate 9 '0').take 9)

/-- Read a fraction of a second if a point stands next. -/
def fraction : Reader Nat := do
  match ← get with
  | '.' :: cs =>
    set cs
    nanoseconds
  | _ => return 0

def time : Reader TimeOfDay := do
  let h ← number 2 0 23
  mark ':'
  let m ← number 2 0 59
  mark ':'
  let s ← number 2 0 60
  let n ← fraction
  if s = 60 then TimeOfDay.of? h m 59 (1000000000 + n) else TimeOfDay.of? h m s n

def dateTime (separator : Reader Unit) : Reader Timestamp := do
  let d ← date
  separator
  return ⟨d, ← time⟩

end Reader

end Calendar

open Calendar in
/-- The moment that a text denotes: a date with a time, else a date at its first moment. -/
def Timestamp.read? (s : String) : Option Timestamp :=
  let cs := Text.trimList s.toList
  (Reader.dateTime Reader.blanks).whole? cs <|>
    (Reader.dateTime (Text.Reader.mark 'T')).whole? cs <|>
    (Reader.date.whole? cs).map Timestamp.ofDate

open Calendar in
/-- The first moment of a day, from its three numbers. -/
def Timestamp.ofDay? (year : Int) (month day : Nat) : Option Timestamp :=
  (Date.of? year month day).map Timestamp.ofDate

example : Timestamp.read? "10000-01-01" = none ∧
    Timestamp.read? "+10000-01-01" = Timestamp.ofDay? 10000 1 1 := by
  decide +kernel

end TransactionKit
