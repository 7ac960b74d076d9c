import TransactionKit.Collection.SortedMap
import TransactionKit.Lock.Acquisition

/-!
Transaction locks. A transaction lock covers the keys of all entities that a transaction changes
and acquires them from one backend in ascending order, so that two transactions which share keys
ask for them in the same order. It is created, then locked, then released, and never goes back.

While it is locked, other locks can be nested in it. A nested lock rides on the outer one: it has
no backend and acquires nothing. A strict lock admits only locks whose keys it covers; a relaxed
one admits any. A lock that is given up is released, whatever its state.
-/

namespace TransactionKit

/-- Where a transaction lock is in its life. -/
inductive LockState where
  /-- Nothing is acquired. -/
  | created
  /-- Every key is acquired, or the lock is nested. -/
  | locked
  /-- The end. -/
  | released
deriving DecidableEq, Repr, Inhabited

def LockState.name : LockState → String
  | created => "Created"
  | locked => "Locked"
  | released => "Released"

/-- A set of keys that are acquired together. -/
structure TransactionLock where
  /-- The keys, with the entities they stand for. -/
  objects : SortedMap LockKey (Option Entity)
  /-- Where the keys are acquired; nothing for a nested or a released lock. -/
  backend? : Option Backend
  owner : Owner
  state : LockState
  /-- Whether every lock may be nested in this one. -/
  relaxed : Bool
  /-- The acquired keys in the order of their acquisition. -/
  acquired : List LockKey
  /-- The nested locks, the innermost last. -/
  nested : List TransactionLock
deriving Repr, Inhabited

namespace TransactionLock

/-- The failure to lock again. -/
def releasedForGood : Error :=
  .invalidState "a released transaction lock cannot be locked again"

/-- The failure to find a backend. -/
def noBackend : Error :=
  .invalidState "transaction lock has no strategy"

/-- A lock on keys with their entities. -/
def ofObjects (backend : Backend) (owner : Owner) (relaxed : Bool)
    (objects : List (LockKey × Option Entity)) : TransactionLock where
  objects := SortedMap.ofList objects
  backend? := some backend
  owner := owner
  state := .created
  relaxed := relaxed
  acquired := []
  nested := []

/-- A lock on bare keys. -/
def ofKeys (backend : Backend) (owner : Owner) (relaxed : Bool) (keys : List LockKey) :
    TransactionLock :=
  ofObjects backend owner relaxed (keys.map fun key => (key, none))

/-- A lock on entities. Of two entities with the same key the later one counts. -/
def ofEntities (backend : Backend) (owner : Owner) (relaxed : Bool) (types : EntityTypes)
    (entities : List Entity) : Except Error TransactionLock := do
  let objects ← entities.mapM fun entity => do return (← LockKey.ofEntity types entity, some entity)
  return ofObjects backend owner relaxed objects

/-- The keys in ascending order; none once the lock is released. -/
def keys (lock : TransactionLock) : List LockKey :=
  lock.objects.keys

def covers (lock : TransactionLock) (key : LockKey) : Bool :=
  lock.objects.contains key

/-- The entity that a key stands for. -/
def object? (lock : TransactionLock) (key : LockKey) : Option Entity :=
  (lock.objects.get? key).join

/-- The number of nested locks. -/
def depth (lock : TransactionLock) : Nat :=
  lock.nested.length

/-- The innermost lock: the last nested one, or the lock itself. -/
def current (lock : TransactionLock) : TransactionLock :=
  lock.nested.getLast?.getD lock

/-- The lock in the name of another owner. -/
def withOwner (lock : TransactionLock) (owner : Owner) : TransactionLock :=
  { lock with owner := owner }

/-- The time that `lockDefault` waits: the default of the backend. -/
def defaultTimeout (lock : TransactionLock) : Except Error Timeout :=
  match lock.backend? with
  | some backend => .ok (.after backend.config.defaultTimeout)
  | none => .error noBackend

/-- A lock in one line, for people who debug. -/
def summary (lock : TransactionLock) : String :=
  "TransactionLock \x7b keys: [" ++
    ", ".intercalate (lock.keys.map fun key => "LockKey(" ++ Text.shown key.text ++ ")") ++
    "], owner: " ++ lock.owner.summary ++ ", state: " ++ lock.state.name ++
    ", relaxed: " ++ toString lock.relaxed ++ ", nested: " ++ toString lock.depth ++ " \x7d"

/-! ## Release -/

/-- Release keys one after the other; a failure is passed over. -/
def releaseKeys (backend : Backend) (owner : Owner) : List LockKey → Routine Unit
  | [] => return ()
  | key :: rest => do
    let _ ← backend.release key owner
    releaseKeys backend owner rest

mutual

/-- Release a lock: first its nested locks, the innermost first, then its acquired keys, the last
first, if it has a backend. Nothing happens to a lock that is released already. -/
def release : TransactionLock → Routine TransactionLock
  | ⟨objects, backend?, owner, state, relaxed, acquired, nested⟩ =>
    if state = .released then return ⟨objects, backend?, owner, state, relaxed, acquired, nested⟩
    else do
      releaseNested nested
      match backend? with
      | some backend =>
        releaseKeys backend owner acquired.reverse
        return ⟨∅, none, owner, .released, relaxed, [], []⟩
      | none => return ⟨∅, none, owner, .released, relaxed, acquired, []⟩

/-- Release nested locks, the last first. -/
def releaseNested : List TransactionLock → Routine Unit
  | [] => return ()
  | lock :: rest => do
    releaseNested rest
    let _ ← release lock

end

/-- Give a lock up. -/
def discard (lock : TransactionLock) : Routine Unit := do
  let _ ← lock.release

/-! ## Acquisition -/

/-- Acquire one key before a deadline, in at most `rounds` attempts of at most `rounds` rounds
each; whether it is acquired. Every failure of the backend is a reason to try again. -/
def acquireKey (attempts : Nat) (backend : Backend) (owner : Owner) (deadline : Deadline)
    (key : LockKey) : Nat → Routine Bool
  | 0 => .starved
  | rounds + 1 => do
    match ← backend.lock attempts key owner (← deadline.remaining) with
    | .ok () => return true
    | .error _ =>
      if ← deadline.expired then return false
      else
        deadline.pause backend.config.pollInterval
        acquireKey attempts backend owner deadline key rounds

/-- Acquire keys in the order given until one is not acquired before the deadline; whether all are
acquired, and the acquired ones after those that were before. -/
def acquireKeys (rounds : Nat) (backend : Backend) (owner : Owner) (deadline : Deadline) :
    List LockKey → List LockKey → Routine (Bool × List LockKey)
  | acquired, [] => return (true, acquired)
  | acquired, key :: rest => do
    if ← acquireKey rounds backend owner deadline key rounds then
      acquireKeys rounds backend owner deadline (acquired ++ [key]) rest
    else return (false, acquired)

/-- Acquire every key within a timeout. If one cannot be acquired, those that were are released
again and the lock is as before. A locked lock stays as it is. -/
def lock (rounds : Nat) (timeout : Timeout) (this : TransactionLock) :
    Routine (Except Error Unit × TransactionLock) :=
  match this.state, this.backend? with
  | .locked, _ => return (.ok (), this)
  | .released, _ => return (.error releasedForGood, this)
  | .created, none => return (.error noBackend, this)
  | .created, some backend => do
    let deadline ← Deadline.after timeout
    let (complete, acquired) ←
      acquireKeys rounds backend this.owner deadline this.acquired this.keys
    if complete then
      return (.ok (), { this with state := .locked, acquired := acquired })
    else
      releaseKeys backend this.owner acquired.reverse
      return (.error (.lockTimeout (this.keys.map LockKey.text)), { this with acquired := [] })

/-- Acquire every key within the default timeout of the backend. -/
def lockDefault (rounds : Nat) (this : TransactionLock) :
    Routine (Except Error Unit × TransactionLock) :=
  match this.defaultTimeout with
  | .ok timeout => this.lock rounds timeout
  | .error e => return (.error e, this)

/-! ## Nesting -/

/-- Why a lock does not admit another as nested, if it does not. -/
def refusal? (outer inner : TransactionLock) : Option Error :=
  if outer.state ≠ .locked then
    some (.invalidState "nested locks need a locked outer lock")
  else if inner.state ≠ .created then
    some (.invalidState "only a fresh transaction lock can be nested")
  else if outer.relaxed then none
  else (inner.keys.find? fun key => !outer.covers key).map fun key => .nestedConflict key.text

/-- Nest a lock in another. The inner lock is used up: it is given up if it is refused. -/
def pushNested (outer inner : TransactionLock) : Routine (Except Error Unit × TransactionLock) :=
  match outer.refusal? inner with
  | some e => do
    inner.discard
    return (.error e, outer)
  | none =>
    let admitted := { inner with backend? := none, state := .locked }
    return (.ok (), { outer with nested := outer.nested ++ [admitted] })

/-- Release the innermost nested lock; the lock that was released, if there was one. -/
def popNested (outer : TransactionLock) : Routine (Option TransactionLock × TransactionLock) :=
  match outer.nested.getLast? with
  | none => return (none, outer)
  | some inner => do
    let inner ← inner.release
    return (some inner, { outer with nested := outer.nested.dropLast })

/-! ## Validity -/

/-- Whether one of the keys, looked at in order, is known to be lost. A key that cannot be checked
counts as held, and no key after a lost one is looked at. -/
def anyLost (backend : Backend) (owner : Owner) : List LockKey → Routine Bool
  | [] => return false
  | key :: rest => do
    match ← backend.isHeldBy key owner with
    | .ok false => return true
    | _ => anyLost backend owner rest

/-- The keys that are not known to be lost. -/
def notLost (backend : Backend) (owner : Owner) : List LockKey → Routine (List LockKey)
  | [] => return []
  | key :: rest => do
    match ← backend.isHeldBy key owner with
    | .ok false => notLost backend owner rest
    | _ => return key :: (← notLost backend owner rest)

/-- Whether a lock is locked and its owner still holds every acquired key. If a key is lost, the
keys that are left are released and so is the lock. A nested lock is as good as its outer lock. -/
def isLocked (this : TransactionLock) : Routine (Bool × TransactionLock) :=
  match this.state, this.backend? with
  | .locked, some backend => do
    if ← anyLost backend this.owner this.acquired then
      let left ← notLost backend this.owner this.acquired
      return (false, ← { this with acquired := left }.release)
    else return (true, this)
  | .locked, none => return (true, this)
  | _, _ => return (false, this)

end TransactionLock

end TransactionKit
