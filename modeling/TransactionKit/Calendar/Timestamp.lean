import TransactionKit.Calendar.Date

/-!
Dates with a time of day, without a zone. The nanosecond part counts up to two seconds: from
1 000 000 000 on it stands for a leap second after the second. A time that is made from its four
numbers can lie in a leap second only at the end of a minute, where it is shown as second 60
(`TimeOfDay.of?`); a time whose nanoseconds were changed can lie in one after any second.
-/

namespace TransactionKit

namespace Calendar

/-- Whether four numbers name a time of day. -/
def IsTime (hour minute second nanos : Nat) : Prop :=
  hour < 24 ∧ minute < 60 ∧ second < 60 ∧ nanos < 2000000000

instance (hour minute second nanos : Nat) : Decidable (IsTime hour minute second nanos) := by
  unfold IsTime
  infer_instance

end Calendar

/-- A time of day. -/
structure TimeOfDay where
  hour : Nat
  minute : Nat
  second : Nat
  nanos : Nat
  isTime : Calendar.IsTime hour minute second nanos
deriving DecidableEq, Repr

namespace TimeOfDay

/-- The first moment of a day. -/
def midnight : TimeOfDay :=
  ⟨0, 0, 0, 0, by decide⟩

instance : Inhabited TimeOfDay := ⟨midnight⟩

/-- The time with the given numbers, if they name one that is in no leap second or in one at the end
of a minute. -/
def of? (hour minute second nanos : Nat) : Option TimeOfDay :=
  if h : Calendar.IsTime hour minute second nanos ∧ (nanos < 1000000000 ∨ second = 59) then
    some ⟨hour, minute, second, nanos, h.1⟩
  else none

/-- The second as it is shown, the one after it in a leap second. -/
def shownSecond (t : TimeOfDay) : Nat :=
  t.second + t.nanos / 1000000000

/-- The nanoseconds within the shown second. -/
def subsecond (t : TimeOfDay) : Nat :=
  t.nanos % 1000000000

/-- The hour on a twelve-hour clock, from 1 to 12. -/
def clockHour (t : TimeOfDay) : Nat :=
  (t.hour + 11) % 12 + 1

/-- Whether the time is in the second half of the day. -/
def isAfternoon (t : TimeOfDay) : Bool :=
  12 ≤ t.hour

end TimeOfDay

/-- A date and a time of day. -/
structure Timestamp where
  date : Date
  time : TimeOfDay
deriving DecidableEq, Repr, Inhabited

namespace Timestamp

/-- The first moment of a date. -/
def ofDate (d : Date) : Timestamp :=
  ⟨d, .midnight⟩

/-- The seconds from 1970-01-01 00:00:00; a leap second counts with the second before it. -/
def epochSeconds (t : Timestamp) : Int :=
  t.date.dayNumber * 86400 + t.time.hour * 3600 + t.time.minute * 60 + t.time.second

end Timestamp

end TransactionKit
