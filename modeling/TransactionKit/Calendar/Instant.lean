/-!
Moments in universal time: a second, counted from 1970-01-01 and negative before it, and the
nanoseconds since it began. They count up to two seconds, and from 1 000 000 000 on they stand for a
leap second after the second. A clock that counts nanoseconds never shows a leap second, but records
can be dated in one.
-/

namespace TransactionKit

/-- A moment in universal time. -/
structure Instant where
  second : Int
  nanos : Nat
  nanos_lt : nanos < 2000000000
deriving DecidableEq, Repr

namespace Instant

/-- The moment that a clock of nanoseconds shows. -/
def ofNanos (n : Int) : Instant :=
  ⟨n / 1000000000, (n % 1000000000).toNat, by omega⟩

instance : Inhabited Instant := ⟨ofNanos 0⟩

/-- Whether a moment lies in a leap second. -/
def isLeap (m : Instant) : Bool :=
  1000000000 ≤ m.nanos

/-- The day of a moment, counted from 1970-01-01. -/
def day (m : Instant) : Int :=
  m.second / 86400

/-- The seconds since the day began. -/
def secondOfDay (m : Instant) : Int :=
  m.second % 86400

/-- The nanoseconds from one moment to another. A leap second that one of them lies in counts if it
is at the smaller time of day, as if both were on one day. -/
def since (later earlier : Instant) : Int :=
  let leap : Int :=
    if earlier.secondOfDay < later.secondOfDay ∧ earlier.isLeap then 1
    else if later.secondOfDay < earlier.secondOfDay ∧ later.isLeap then -1
    else 0
  (later.second - earlier.second + leap) * 1000000000 + (later.nanos - earlier.nanos)

theorem isLeap_ofNanos (n : Int) : (ofNanos n).isLeap = false := by
  rw [isLeap, decide_eq_false_iff_not, ofNanos]
  dsimp only
  omega

/-- Outside leap seconds the time that has passed is a difference. -/
theorem since_eq_sub {earlier : Instant} (ordinary : earlier.isLeap = false) (now : Int) :
    (ofNanos now).since earlier = now - (earlier.second * 1000000000 + earlier.nanos) := by
  have shown : (ofNanos now).second * 1000000000 + (ofNanos now).nanos = now := by
    rw [ofNanos]
    dsimp only
    omega
  simp only [since, ordinary, isLeap_ofNanos, Bool.false_eq_true, and_false, if_false]
  omega

/-- The number of whole milliseconds from 1970-01-01; in a leap second the milliseconds since the
second before it go on. -/
def ms (m : Instant) : Int :=
  m.second * 1000 + (m.nanos / 1000000 : Nat)

/-- The moment a number of milliseconds from 1970-01-01. -/
def ofMs (ms : Int) : Instant :=
  ⟨ms / 1000, (ms % 1000).toNat * 1000000, by omega⟩

end Instant

end TransactionKit
