import TransactionKit.Proofs.Lock.Operation
import TransactionKit.Transaction.Lock

/-!
The calls that transaction locks make. Whatever is done with a transaction lock, it makes no call
to a connection, and the records it inserts are in the name of its own owner. Releasing and
checking insert no record at all.
-/

namespace TransactionKit

/-- A call to a lock table or to the clock that inserts records for one owner only. -/
def Call.LocksFor (token : String) : Call → Prop
  | .create _ record => record.owner = token
  | .request .. | .read .. | .remove .. | .now | .sleep _ => True
  | .connect _ | .commit _ | .rollback _ | .close _ => False

namespace LockOperation

/-- The token in whose name an operation may insert a record. -/
def MayInsertFor (token : String) : LockOperation → Prop
  | lock _ _ owner _ => owner.token = token
  | release .. | isHeld _ | isHeldBy .. | evictStale _ => True

/-- An operation on one key inserts records for its owner only. -/
theorem only_routine (backend : Backend) (operation : LockOperation) {token : String}
    (may : operation.MayInsertFor token) :
    Routine.Only (Call.LocksFor token) (operation.routine backend) := by
  refine (conducts_routine backend operation).only fun past c permitted => ?_
  cases c with
  | create target record =>
      obtain ⟨-, rounds, key, owner, timeout, moment, rfl, rfl⟩ := permitted
      exact may
  | request | read | remove | now | sleep => trivial
  | connect | commit | rollback | close => exact permitted

end LockOperation

namespace TransactionLock

open Routine

variable {token : String}

theorem only_releaseKeys (backend : Backend) (owner : Owner) (keys : List LockKey) :
    Only (Call.LocksFor token) (releaseKeys backend owner keys) := by
  induction keys with
  | nil => trivial
  | cons key rest hypothesis =>
      have first : Only (Call.LocksFor token) (backend.release key owner) :=
        LockOperation.only_routine backend (.release key owner) trivial
      exact first.bind fun _ => hypothesis

mutual

theorem only_release : (lock : TransactionLock) → Only (Call.LocksFor token) lock.release
  | ⟨objects, backend?, owner, state, relaxed, acquired, nested⟩ => by
    unfold release
    split
    · trivial
    · refine (only_releaseNested nested).bind fun _ => ?_
      cases backend? with
      | none => trivial
      | some backend =>
          exact (only_releaseKeys backend owner acquired.reverse).bind fun _ => trivial

theorem only_releaseNested :
    (locks : List TransactionLock) → Only (Call.LocksFor token) (releaseNested locks)
  | [] => trivial
  | lock :: rest => by
    unfold releaseNested
    exact (only_releaseNested rest).bind fun _ => (only_release lock).bind fun _ => trivial

end

theorem only_discard (lock : TransactionLock) : Only (Call.LocksFor token) lock.discard :=
  lock.only_release.bind fun _ => trivial

theorem only_acquireKey {attempts : Nat} {backend : Backend} {owner : Owner} {deadline : Deadline}
    {key : LockKey} (rounds : Nat) :
    Only (Call.LocksFor owner.token)
      (acquireKey attempts backend owner deadline key rounds) := by
  induction rounds with
  | zero => trivial
  | succ rounds hypothesis =>
      refine (deadline.only_remaining trivial).bind fun timeout => ?_
      have attempt : Only (Call.LocksFor owner.token) (backend.lock attempts key owner timeout) :=
        LockOperation.only_routine backend (.lock attempts key owner timeout) rfl
      refine attempt.bind fun answer => ?_
      cases answer with
      | ok _ => trivial
      | error e =>
          refine (deadline.only_expired trivial).bind fun expired => ?_
          cases expired with
          | true => trivial
          | false =>
              exact (deadline.only_pause trivial (fun _ => trivial) _).bind fun _ => hypothesis

theorem only_acquireKeys {rounds : Nat} {backend : Backend} {owner : Owner} {deadline : Deadline}
    {acquired : List LockKey} (keys : List LockKey) :
    Only (Call.LocksFor owner.token)
      (acquireKeys rounds backend owner deadline acquired keys) := by
  induction keys generalizing acquired with
  | nil => trivial
  | cons key rest hypothesis =>
      refine (only_acquireKey rounds).bind fun got => ?_
      cases got with
      | true => exact hypothesis
      | false => trivial

theorem only_lock (rounds : Nat) (timeout : Timeout) (this : TransactionLock) :
    Only (Call.LocksFor this.owner.token) (this.lock rounds timeout) := by
  unfold TransactionLock.lock
  split
  · trivial
  · trivial
  · trivial
  · refine (Deadline.only_after trivial timeout).bind fun deadline => ?_
    refine (only_acquireKeys this.keys).bind fun (complete, acquired) => ?_
    cases complete with
    | true => trivial
    | false => exact (only_releaseKeys _ _ _).bind fun _ => trivial

theorem only_lockDefault (rounds : Nat) (this : TransactionLock) :
    Only (Call.LocksFor this.owner.token) (this.lockDefault rounds) := by
  unfold lockDefault
  split
  · exact only_lock rounds _ this
  · trivial

/-- Acquire every key within a timeout, or within the default one if none is given. -/
def lockWithin (rounds : Nat) (timeout? : Option Timeout) (this : TransactionLock) :
    Routine (Except Error Unit × TransactionLock) :=
  match timeout? with
  | some timeout => this.lock rounds timeout
  | none => this.lockDefault rounds

theorem only_lockWithin (rounds : Nat) (timeout? : Option Timeout) (this : TransactionLock) :
    Only (Call.LocksFor this.owner.token) (this.lockWithin rounds timeout?) := by
  cases timeout? with
  | some timeout => exact only_lock rounds timeout this
  | none => exact only_lockDefault rounds this

/-- A lock without nested locks has none to release. -/
theorem popNested_of_nil {outer : TransactionLock} (flat : outer.nested = []) :
    outer.popNested = .done (none, outer) := by
  simp [popNested, flat]

/-- The last nested lock is the one that is released. -/
theorem popNested_of_concat {outer inner : TransactionLock} {others : List TransactionLock}
    (nested : outer.nested = others ++ [inner]) :
    outer.popNested =
      inner.release >>= fun inner => .done (some inner, { outer with nested := others }) := by
  simp [popNested, nested]

theorem only_pushNested (outer inner : TransactionLock) :
    Only (Call.LocksFor token) (outer.pushNested inner) := by
  unfold pushNested
  split
  · exact inner.only_discard.bind fun _ => trivial
  · trivial

theorem only_isHeldBy (backend : Backend) (key : LockKey) (owner : Owner) :
    Only (Call.LocksFor token) (backend.isHeldBy key owner) :=
  LockOperation.only_routine backend (.isHeldBy key owner) trivial

theorem only_anyLost (backend : Backend) (owner : Owner) (keys : List LockKey) :
    Only (Call.LocksFor token) (anyLost backend owner keys) := by
  induction keys with
  | nil => trivial
  | cons key rest hypothesis =>
      refine (only_isHeldBy backend key owner).bind fun answer => ?_
      split
      · trivial
      · exact hypothesis

theorem only_notLost (backend : Backend) (owner : Owner) (keys : List LockKey) :
    Only (Call.LocksFor token) (notLost backend owner keys) := by
  induction keys with
  | nil => trivial
  | cons key rest hypothesis =>
      refine (only_isHeldBy backend key owner).bind fun answer => ?_
      split
      · exact hypothesis
      · exact hypothesis.bind fun _ => trivial

theorem only_isLocked (this : TransactionLock) : Only (Call.LocksFor token) this.isLocked := by
  unfold isLocked
  split
  · refine (only_anyLost _ _ _).bind fun lost => ?_
    cases lost with
    | true =>
        exact (only_notLost _ _ _).bind fun left => (only_release _).bind fun _ => trivial
    | false => trivial
  · trivial
  · trivial

end TransactionLock

end TransactionKit
