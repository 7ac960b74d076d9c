import TransactionKit.Lock.Deadline

/-!
Acquiring and releasing one key of a lock table. A table offers three steps that each happen at
once: insert a record, read one, remove one. Everything else is composed of these, so other owners
may act between any two of them. A record older than the greatest age of its backend counts as
abandoned: whoever meets it may evict it.
-/

namespace TransactionKit

namespace Backend

/-- Remove the record of a key if it is stale; the record that was removed. Only a record of the
owner that was read is removed, so a record that another owner puts in its place survives. -/
def evictStale (backend : Backend) (key : LockKey) : Routine (Except Error (Option Record)) := do
  match ← Routine.read backend key with
  | .error e => return .error e
  | .ok none => return .ok none
  | .ok (some record) =>
    if record.isStale backend.config.maxLockAge (← Routine.now) then
      match ← Routine.remove backend key (some record.owner) with
      | .error e => return .error e
      | .ok removed => return .ok (if removed then some record else none)
    else return .ok none

/-- What one attempt to acquire a key comes to. -/
inductive Attempt where
  /-- The record is in the table. -/
  | acquired
  /-- A stale record is out of the way, so the next attempt may follow at once. -/
  | evicted
  /-- Another owner holds the key, or a step failed. -/
  | refused
deriving DecidableEq, Repr, Inhabited

/-- Try to insert the record of an owner, and to evict a stale record that is in its way. -/
def attempt (backend : Backend) (key : LockKey) (owner : Owner) : Routine Attempt := do
  match ← Routine.create backend (Record.of key owner (← Routine.now)) with
  | .ok true => return .acquired
  | .ok false =>
    match ← backend.evictStale key with
    | .ok (some _) => return .evicted
    | .ok none => return .refused
    | .error _ => return .refused
  | .error _ => return .refused

/-- Attempt to acquire a key until it is acquired or the deadline is reached, with a pause after
each refusal. There is at least one attempt, and no look at the deadline after an eviction. -/
def poll (backend : Backend) (key : LockKey) (owner : Owner) (deadline : Deadline) :
    Nat → Routine (Except Error Unit)
  | 0 => .starved
  | rounds + 1 => do
    match ← backend.attempt key owner with
    | .acquired => return .ok ()
    | .evicted => backend.poll key owner deadline rounds
    | .refused =>
      if ← deadline.expired then return .error (.lockTimeout [key.text])
      else
        deadline.pause backend.config.pollInterval
        backend.poll key owner deadline rounds

/-- Acquire a key for an owner within a timeout, in at most `rounds` attempts. A failure of a step
counts as a key that is not acquired yet. -/
def lock (rounds : Nat) (backend : Backend) (key : LockKey) (owner : Owner) (timeout : Timeout) :
    Routine (Except Error Unit) := do
  match ← Routine.request backend key with
  | .error e => return .error e
  | .ok () => backend.poll key owner (← Deadline.after timeout) rounds

/-- Release a key that an owner holds; whether a record was removed. The record of another owner
stays, unless the settings let any owner release it. -/
def release (backend : Backend) (key : LockKey) (owner : Owner) : Routine (Except Error Bool) := do
  match ← Routine.read backend key with
  | .error e => return .error e
  | .ok none => return .ok false
  | .ok (some record) =>
    if record.owner = owner.token then Routine.remove backend key (some owner.token)
    else if backend.config.ignoreLockOwner then Routine.remove backend key none
    else return .ok false

/-- The record of a key after a stale one is evicted. -/
def current (backend : Backend) (key : LockKey) : Routine (Except Error (Option Record)) := do
  match ← backend.evictStale key with
  | .error e => return .error e
  | .ok _ => Routine.read backend key

/-- Whether anyone holds a key. -/
def isHeld (backend : Backend) (key : LockKey) : Routine (Except Error Bool) := do
  return (← backend.current key).map Option.isSome

/-- Whether an owner holds a key. -/
def isHeldBy (backend : Backend) (key : LockKey) (owner : Owner) :
    Routine (Except Error Bool) := do
  return (← backend.current key).map fun record? => record?.any (·.owner == owner.token)

end Backend

end TransactionKit
