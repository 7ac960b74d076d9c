import TransactionKit.Calendar.Instant
import TransactionKit.Key

/-!
The records that stand for held locks. A record says which owner holds a key and since when. The
clock counts nanoseconds from 1970-01-01 in universal time, negative before it.
-/

namespace TransactionKit

/-- Whoever holds locks. Records carry the token; the description is for people. -/
structure Owner where
  token : String
  description : String
deriving DecidableEq, Repr, Inhabited

namespace Owner

/-- The token of the owner with a serial number, in the form of a random identifier. -/
def tokenOfSerial (serial : Nat) : String :=
  String.ofList ("00000000-0000-4000-8000-".toList ++ Text.padLeft '0' 12 (Nat.toDigits 16 serial))

/-- The owner with a serial number. -/
def ofSerial (serial : Nat) (description : String) : Owner :=
  ⟨tokenOfSerial serial, description⟩

/-- An owner as messages show it. -/
def display (owner : Owner) : String :=
  owner.token ++ " (" ++ owner.description ++ ")"

/-- An owner in one line, for people who debug. -/
def summary (owner : Owner) : String :=
  "LockOwner \x7b id: " ++ owner.token ++ ", description: " ++ Text.shown owner.description ++
    " \x7d"

end Owner

/-- What a lock table stores for a held key. -/
structure Record where
  key : LockKey
  owner : String
  description : String
  created : Instant
deriving DecidableEq, Repr, Inhabited

namespace Record

/-- The record of a key that an owner takes at a moment. -/
def of (key : LockKey) (owner : Owner) (now : Int) : Record :=
  ⟨key, owner.token, owner.description, .ofNanos now⟩

/-- The nanoseconds since a record was made; zero if it was made later than now. -/
def age (record : Record) (now : Int) : Nat :=
  ((Instant.ofNanos now).since record.created).toNat

/-- Whether a record is older than the greatest age that counts as held. -/
def isStale (record : Record) (maxAge : Nat) (now : Int) : Bool :=
  maxAge < record.age now

end Record

end TransactionKit
