import TransactionKit.Calendar.Timestamp
import TransactionKit.Decimal.Power
import TransactionKit.Text.Numeral

/-!
Date patterns. A pattern is text with conversions, each a percent sign and a letter; `Pattern.of?`
reads one into a list of items and fails on an unknown or unfinished conversion, and
`Pattern.write` lays out a timestamp. A numeric conversion takes a padding mark between the
percent sign and its letter: `-` for none, `_` for spaces, `0` for zeros. Conversions of a time
zone are not writable for a timestamp without one, so they are refused with the unknown ones.
-/

namespace TransactionKit

namespace Calendar

/-- The numbers that a conversion can write. -/
inductive Field where
  | year
  | century
  | yearOfCentury
  | weekYear
  | weekYearOfCentury
  | quarter
  | month
  | day
  | weekFromSunday
  | weekFromMonday
  | weekOfYear
  | daysFromSunday
  | weekday
  | ordinal
  | hour
  | clockHour
  | minute
  | second
  | nanosecond
  | epochSeconds
deriving DecidableEq, Repr, Inhabited

/-- How a number is widened. -/
inductive Padding where
  | unpadded
  | zeros
  | spaces
deriving DecidableEq, Repr, Inhabited

/-- One part of a pattern. -/
inductive PatternItem where
  | text (cs : List Char)
  | number (field : Field) (padding : Padding)
  | monthName (abbreviated : Bool)
  | weekdayName (abbreviated : Bool)
  | halfDay (upperCase : Bool)
  /-- The subsecond with `places` digits, after a point or not. -/
  | subsecond (point : Bool) (places : Nat)
  /-- Nothing when the subsecond is zero, else a point and 3, 6 or 9 digits, the least that keep
  it exactly. -/
  | subsecondIfAny
deriving DecidableEq, Repr, Inhabited

/-- A pattern as the list of its parts. -/
abbrev Pattern := List PatternItem

namespace Pattern

/-- The English names of the months. -/
def monthNames : List String :=
  ["January", "February", "March", "April", "May", "June", "July", "August", "September",
    "October", "November", "December"]

/-- The English names of the days, from Monday. -/
def weekdayNames : List String :=
  ["Monday", "Tuesday", "Wednesday", "Thursday", "Friday", "Saturday", "Sunday"]

def zeros (field : Field) : PatternItem :=
  .number field .zeros

def spaces (field : Field) : PatternItem :=
  .number field .spaces

/-- A single character of text. -/
def mark (c : Char) : PatternItem :=
  .text [c]

/-- Hour, minute and second of `%T`. -/
def clock : Pattern :=
  [zeros .hour, mark ':', zeros .minute, mark ':', zeros .second]

/-- Month, day and two-digit year of `%D`. -/
def shortDate : Pattern :=
  [zeros .month, mark '/', zeros .day, mark '/', zeros .yearOfCentury]

/-- The items of a conversion letter. -/
def ofLetter? : Char → Option Pattern
  | 'Y' => some [zeros .year]
  | 'C' => some [zeros .century]
  | 'y' => some [zeros .yearOfCentury]
  | 'G' => some [zeros .weekYear]
  | 'g' => some [zeros .weekYearOfCentury]
  | 'q' => some [.number .quarter .unpadded]
  | 'm' => some [zeros .month]
  | 'b' => some [.monthName true]
  | 'h' => some [.monthName true]
  | 'B' => some [.monthName false]
  | 'd' => some [zeros .day]
  | 'e' => some [spaces .day]
  | 'a' => some [.weekdayName true]
  | 'A' => some [.weekdayName false]
  | 'w' => some [.number .daysFromSunday .unpadded]
  | 'u' => some [.number .weekday .unpadded]
  | 'U' => some [zeros .weekFromSunday]
  | 'W' => some [zeros .weekFromMonday]
  | 'V' => some [zeros .weekOfYear]
  | 'j' => some [zeros .ordinal]
  | 'D' => some shortDate
  | 'x' => some shortDate
  | 'F' => some [zeros .year, mark '-', zeros .month, mark '-', zeros .day]
  | 'v' => some [spaces .day, mark '-', .monthName true, mark '-', zeros .year]
  | 'H' => some [zeros .hour]
  | 'k' => some [spaces .hour]
  | 'I' => some [zeros .clockHour]
  | 'l' => some [spaces .clockHour]
  | 'P' => some [.halfDay false]
  | 'p' => some [.halfDay true]
  | 'M' => some [zeros .minute]
  | 'S' => some [zeros .second]
  | 'f' => some [zeros .nanosecond]
  | 'R' => some [zeros .hour, mark ':', zeros .minute]
  | 'T' => some clock
  | 'X' => some clock
  | 'r' => some ([zeros .clockHour, mark ':', zeros .minute, mark ':', zeros .second, mark ' ',
      .halfDay true])
  | 'c' => some ([.weekdayName true, mark ' ', .monthName true, mark ' ', spaces .day, mark ' '] ++
      clock ++ [mark ' ', zeros .year])
  | 's' => some [.number .epochSeconds .unpadded]
  | 't' => some [mark '\t']
  | 'n' => some [mark '\n']
  | '%' => some [mark '%']
  | _ => none

/-- The padding that a mark before a conversion letter asks for. -/
def padding? : Char → Option Padding
  | '-' => some .unpadded
  | '_' => some .spaces
  | '0' => some .zeros
  | _ => none

/-- The number of digits that a figure before `f` asks for. -/
def places? : Char → Option Nat
  | '3' => some 3
  | '6' => some 6
  | '9' => some 9
  | _ => none

/-- Read a pattern, with the text since the last conversion in reverse. -/
def readFrom (held : List Char) : List Char → Option Pattern
  | [] => some (flush held [])
  | '%' :: '.' :: 'f' :: rest =>
    (readFrom [] rest).map fun items => flush held (.subsecondIfAny :: items)
  | '%' :: '.' :: n :: 'f' :: rest => do
    let places ← places? n
    return flush held (.subsecond true places :: (← readFrom [] rest))
  | '%' :: c :: d :: rest =>
    match padding? c, places? c with
    | some padding, _ =>
      match ofLetter? d with
      | some [.number field _] =>
        (readFrom [] rest).map fun items => flush held (.number field padding :: items)
      | _ => none
    | none, some places =>
      if d = 'f' then
        (readFrom [] rest).map fun items => flush held (.subsecond false places :: items)
      else none
    | none, none => do
      let these ← ofLetter? c
      return flush held (these ++ (← readFrom [] (d :: rest)))
  | ['%', c] => (ofLetter? c).map fun these => flush held these
  | ['%'] => none
  | c :: rest => readFrom (c :: held) rest
where
  /-- Put the held text in front of the items after it. -/
  flush (held : List Char) (items : Pattern) : Pattern :=
    if held.isEmpty then items else .text held.reverse :: items

/-- Read a pattern; nothing if it has an unknown or unfinished conversion. -/
def of? (s : String) : Option Pattern :=
  readFrom [] s.toList

/-- A number with its sign, widened to `width` characters in all; zeros go between the sign and
the digits, spaces before the sign. -/
def writeNumber (padding : Padding) (width : Nat) (plus : Bool) (n : Int) : List Char :=
  let sign := if n < 0 then ['-'] else if plus then ['+'] else []
  let digits := Nat.toDigits 10 n.natAbs
  match padding with
  | .unpadded => sign ++ digits
  | .zeros => sign ++ Text.padLeft '0' (width - sign.length) digits
  | .spaces => Text.padLeft ' ' width (sign ++ digits)

/-- A year has four digits; outside 0 to 9999 it always carries a sign, which does not count. -/
def writeYear (padding : Padding) (year : Int) : List Char :=
  if 0 ≤ year ∧ year ≤ 9999 then writeNumber padding 4 false year
  else writeNumber padding 5 true year

/-- A number below 256 in two characters: its tens, counted on from the character `0`, and its
ones. Tens of zero are left out or made a space where zeros are not asked for. -/
def writeTwo (padding : Padding) (n : Nat) : List Char :=
  let ones := [Char.ofNat ('0'.toNat + n % 10)]
  if n < 10 ∧ padding = .unpadded then ones
  else if n < 10 ∧ padding = .spaces then ' ' :: ones
  else Char.ofNat ('0'.toNat + n / 10) :: ones

/-- The text of one number of a timestamp. The century is kept as one byte, so that it has two
characters in any year. -/
def writeField (t : Timestamp) (padding : Padding) : Field → List Char
  | .year => writeYear padding t.date.year
  | .century => two (t.date.year / 100 % 256).toNat
  | .yearOfCentury => two (t.date.year % 100).toNat
  | .weekYear => writeYear padding t.date.weekYear.1
  | .weekYearOfCentury => two (t.date.weekYear.1 % 100).toNat
  | .quarter => writeNumber padding 1 false ((t.date.month + 2) / 3 : Nat)
  | .month => two t.date.month
  | .day => two t.date.day
  | .weekFromSunday => two (t.date.weekFrom 6)
  | .weekFromMonday => two (t.date.weekFrom 0)
  | .weekOfYear => two t.date.weekYear.2
  | .daysFromSunday => writeNumber padding 1 false ((t.date.weekday + 1) % 7 : Nat)
  | .weekday => writeNumber padding 1 false (t.date.weekday + 1 : Nat)
  | .ordinal => writeNumber padding 3 false t.date.ordinal
  | .hour => two t.time.hour
  | .clockHour => two t.time.clockHour
  | .minute => two t.time.minute
  | .second => two t.time.shownSecond
  | .nanosecond => writeNumber padding 9 false t.time.subsecond
  | .epochSeconds => writeNumber padding 9 false t.epochSeconds
where
  two (n : Nat) : List Char := writeTwo padding n

/-- A name from a list, in full or its first three letters. -/
def writeName (names : List String) (index : Nat) (abbreviated : Bool) : List Char :=
  let name := (names[index]?.getD "").toList
  if abbreviated then name.take 3 else name

def writeItem (t : Timestamp) : PatternItem → List Char
  | .text cs => cs
  | .number field padding => writeField t padding field
  | .monthName abbreviated => writeName monthNames (t.date.month - 1) abbreviated
  | .weekdayName abbreviated => writeName weekdayNames t.date.weekday abbreviated
  | .halfDay true => if t.time.isAfternoon then "PM".toList else "AM".toList
  | .halfDay false => if t.time.isAfternoon then "pm".toList else "am".toList
  | .subsecond point places =>
    let digits := Text.zeroPadded places (t.time.subsecond / pow10 (9 - places))
    if point then '.' :: digits else digits
  | .subsecondIfAny =>
    let n := t.time.subsecond
    if n = 0 then []
    else if n % 1000000 = 0 then '.' :: Text.zeroPadded 3 (n / 1000000)
    else if n % 1000 = 0 then '.' :: Text.zeroPadded 6 (n / 1000)
    else '.' :: Text.zeroPadded 9 n

example : writeTwo .zeros 7 = "07".toList ∧ writeTwo .spaces 7 = " 7".toList ∧
    writeTwo .unpadded 7 = "7".toList ∧ writeTwo .zeros 255 = "I5".toList := by decide

/-- A timestamp laid out by a pattern. -/
def write (pattern : Pattern) (t : Timestamp) : List Char :=
  pattern.flatMap (writeItem t)

/-- Year, month and day with hyphens. -/
def isoDate : Pattern :=
  [zeros .year, mark '-', zeros .month, mark '-', zeros .day]

/-- The date, a space, the time to the second and the subsecond if there is one. -/
def isoDateTime : Pattern :=
  isoDate ++ mark ' ' :: clock ++ [.subsecondIfAny]

end Pattern

end Calendar

open Calendar in
/-- A date as year, month and day with hyphens. -/
def Date.text (d : Date) : String :=
  String.ofList (Pattern.isoDate.write (.ofDate d))

open Calendar in
/-- A timestamp as its date, a space and its time of day. -/
def Timestamp.text (t : Timestamp) : String :=
  String.ofList (Pattern.isoDateTime.write t)

end TransactionKit
