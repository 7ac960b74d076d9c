import TransactionKit.Connection.Bundle
import TransactionKit.Transaction.Lock

/-!
Scopes: the state of one running transaction. A scope holds a base lock, in which further locks can
be nested, and the connections that take part. The connections belong to the base lock: inner
levels share them, so only the base level commits, and they are closed when the base lock goes.
Each thread has a scope of its own as its pool.
-/

namespace TransactionKit

/-- The base lock and the connections of a transaction. -/
structure Scope where
  base? : Option TransactionLock
  connections : Bundle
deriving Repr, Inhabited

namespace Scope

/-- The scope that holds nothing. -/
def empty : Scope :=
  ⟨none, .empty⟩

/-- Whether a lock is held. -/
def isActive (scope : Scope) : Bool :=
  scope.base?.isSome

/-- The number of held levels: none, or the base and its nested locks. -/
def depth (scope : Scope) : Nat :=
  scope.base?.elim 0 fun base => 1 + base.depth

/-- The innermost held lock. -/
def current? (scope : Scope) : Option TransactionLock :=
  scope.base?.map TransactionLock.current

/-- A scope in one line, for people who debug. -/
def summary (scope : Scope) : String :=
  "TransactionScope \x7b lock: " ++
    scope.base?.elim "None" (fun base => "Some(" ++ base.summary ++ ")") ++
    ", connections: " ++ scope.connections.summary ++ " \x7d"

/-- Release every level and close every connection. -/
def clear (scope : Scope) : Routine Scope := do
  match scope.base? with
  | some base => base.discard
  | none => pure ()
  return ⟨none, ← scope.connections.closeAll⟩

/-- Acquire a lock, within its default timeout if none is given, and make it the base. A lock that
is not acquired is given up. -/
def enterBase (rounds : Nat) (timeout? : Option Timeout) (lock : TransactionLock) (scope : Scope) :
    Routine (Except Error Unit × Scope) := do
  let (answer, lock) ←
    match timeout? with
    | some timeout => lock.lock rounds timeout
    | none => lock.lockDefault rounds
  match answer with
  | .ok () => return (.ok (), { scope with base? := some lock })
  | .error e =>
    lock.discard
    return (.error e, scope)

/-- Enter a lock. It is nested in the base lock if there is one that is still valid. A base lock
that is not valid any more takes the whole scope with it, and the lock becomes the base. -/
def enter (rounds : Nat) (timeout? : Option Timeout) (lock : TransactionLock) (scope : Scope) :
    Routine (Except Error Unit × Scope) :=
  match scope.base? with
  | none => scope.enterBase rounds timeout? lock
  | some base => do
    let (valid, base) ← base.isLocked
    if valid then
      let (answer, base) ← base.pushNested lock
      return (answer, { scope with base? := some base })
    else
      let scope ← { scope with base? := some base }.clear
      scope.enterBase rounds timeout? lock

/-- Enter a lock; a base lock is acquired within a timeout. -/
def acquire (rounds : Nat) (timeout : Timeout) (lock : TransactionLock) (scope : Scope) :
    Routine (Except Error Unit × Scope) :=
  scope.enter rounds (some timeout) lock

/-- Enter a lock; a base lock is acquired within the default timeout of its backend. -/
def acquireDefault (rounds : Nat) (lock : TransactionLock) (scope : Scope) :
    Routine (Except Error Unit × Scope) :=
  scope.enter rounds none lock

/-- Leave the innermost level. Leaving the base level closes the connections, whose work is lost
if it is not committed. -/
def release (scope : Scope) : Routine Scope :=
  match scope.base? with
  | none => return scope
  | some base => do
    match ← base.popNested with
    | (some _, base) => return { scope with base? := some base }
    | (none, base) =>
      base.discard
      return ⟨none, ← scope.connections.closeAll⟩

/-- Enlist a connection of a store. -/
def encapsulate (store : Store) (scope : Scope) : Routine (Except Error Bool × Scope) := do
  let (answer, connections) ← scope.connections.encapsulate store
  return (answer, { scope with connections := connections })

/-- Commit every connection. -/
def commit (scope : Scope) : Routine (Except Error Unit) :=
  scope.connections.commit

/-- Roll every connection back. -/
def rollback (scope : Scope) : Routine (Except Error Unit) :=
  scope.connections.rollback

/-- Commit, then leave the innermost level whatever the outcome. On an inner level nothing is
committed, since the connections belong to the base. -/
def commitAndRelease (scope : Scope) : Routine (Except Error Unit × Scope) := do
  let answer ← if 1 < scope.depth then pure (.ok ()) else scope.commit
  return (answer, ← scope.release)

/-- Roll back, then clear the scope whatever the outcome. -/
def rollbackAndRelease (scope : Scope) : Routine (Except Error Unit × Scope) := do
  let answer ← scope.rollback
  return (answer, ← scope.clear)

/-- Give a scope up: its locks are released, its connections are left as they are. -/
def discard (scope : Scope) : Routine Unit :=
  match scope.base? with
  | some base => base.discard
  | none => return ()

end Scope

end TransactionKit
