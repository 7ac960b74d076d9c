import TransactionKit.Lock.Acquisition
import TransactionKit.Proofs.Lock.Interleaving

/-!
The operations on one key of a lock table as a service, and their conduct. Two sorts of calls
change a table. A record is only inserted by an acquisition, in the name of its owner. A record is
only removed by a release, which asks for the owner it was called for, or by an eviction, which
asks for the owner of a stale record that it has just read. The conduct of every operation is put
together from that of `Backend.evictStale`.

The rounds of an acquisition bound the number of its attempts. They are part of the operation, so
runs with any number of attempts are among the runs of the service.
-/

namespace TransactionKit

/-- What clients of a lock table do. -/
inductive LockOperation where
  | lock (rounds : Nat) (key : LockKey) (owner : Owner) (timeout : Timeout)
  | release (key : LockKey) (owner : Owner)
  | isHeld (key : LockKey)
  | isHeldBy (key : LockKey) (owner : Owner)
  | evictStale (key : LockKey)
deriving DecidableEq, Repr, Inhabited

namespace LockOperation

/-- What an operation comes to. -/
@[reducible] def Answer : LockOperation → Type
  | lock .. => Except Error Unit
  | release .. => Except Error Bool
  | isHeld _ => Except Error Bool
  | isHeldBy .. => Except Error Bool
  | evictStale _ => Except Error (Option Record)

/-- How an operation is carried out. -/
def routine (backend : Backend) : (operation : LockOperation) → Routine operation.Answer
  | lock rounds key owner timeout => backend.lock rounds key owner timeout
  | release key owner => backend.release key owner
  | isHeld key => backend.isHeld key
  | isHeldBy key owner => backend.isHeldBy key owner
  | evictStale key => backend.evictStale key

/-- Whether an operation may evict a stale record of a key. A release never does. -/
def Evicts (key : LockKey) : LockOperation → Prop
  | lock _ own _ _ => own = key
  | release .. => False
  | isHeld own => own = key
  | isHeldBy own _ => own = key
  | evictStale own => own = key

end LockOperation

/-- The operations on the keys of a backend. -/
def Backend.service (backend : Backend) : Service where
  Operation := LockOperation
  Answer := LockOperation.Answer
  routine := LockOperation.routine backend

/-- The exchanges end with a record being read under a key and found to be stale. -/
def FoundStale (backend : Backend) (key : LockKey) (seen : Record) (past : List Exchange) : Prop :=
  ∃ moment before,
    past = ⟨.now, moment⟩ :: ⟨.read backend key, .ok (some seen)⟩ :: before ∧
      seen.isStale backend.config.maxLockAge moment = true

namespace LockOperation

/-- Why an operation may ask for the record of a key to be removed: it is a release and names the
owner it was called for, or it is a release for whoever holds the key where the settings allow
that, or it has found a stale record and names the owner of that. -/
inductive MayRemove (backend : Backend) (past : List Exchange) (key : LockKey) :
    LockOperation → Option String → Prop where
  | own (owner : Owner) : MayRemove backend past key (release key owner) (some owner.token)
  | anyone (owner : Owner) (lenient : backend.config.ignoreLockOwner = true) :
      MayRemove backend past key (release key owner) none
  | stale {operation : LockOperation} {seen : Record} (evicts : operation.Evicts key)
      (found : FoundStale backend key seen past) :
      MayRemove backend past key operation (some seen.owner)

/-- The calls that an operation may make after the exchanges before them. -/
def Permits (backend : Backend) (operation : LockOperation) (past : List Exchange) : Call → Prop
  | .create target record => target = backend ∧
      ∃ rounds key owner timeout moment,
        operation = lock rounds key owner timeout ∧ record = Record.of key owner moment
  | .remove target key owner? => target = backend ∧ MayRemove backend past key operation owner?
  | .request target _ => target = backend
  | .read target _ => target = backend
  | .now => True
  | .sleep _ => True
  | .connect _ => False
  | .commit _ => False
  | .rollback _ => False
  | .close _ => False

/-- The answers that an operation may come to: a key counts as acquired only if the last call has
inserted a record for its owner. -/
def Yields (backend : Backend) :
    (operation : LockOperation) → List Exchange → operation.Answer → Prop
  | lock _ key owner _, past, answer => answer = .ok () →
      ∃ moment before, past = ⟨.create backend (Record.of key owner moment), .ok true⟩ :: before
  | release .., _, _ => True
  | isHeld _, _, _ => True
  | isHeldBy .., _, _ => True
  | evictStale _, _, _ => True

variable {backend : Backend} {operation : LockOperation} {key : LockKey} {past : List Exchange}

/-! ## The conduct of the parts -/

/-- An operation that evicts may do so at any point. -/
theorem conducts_evictStale (evicts : operation.Evicts key) :
    Routine.Conducts (Permits backend operation) (fun _ _ => True) past
      (backend.evictStale key) := by
  unfold Backend.evictStale
  refine Routine.Conducts.ask_bind rfl fun answer => ?_
  cases answer with
  | error e => trivial
  | ok record? =>
      cases record? with
      | none => trivial
      | some record =>
          refine Routine.Conducts.ask_bind trivial fun moment => ?_
          by_cases stale : record.isStale backend.config.maxLockAge moment = true
          · rw [if_pos stale]
            have mayRemove : MayRemove backend _ key operation (some record.owner) :=
              .stale evicts ⟨moment, past, rfl, stale⟩
            refine Routine.Conducts.ask_bind ⟨rfl, mayRemove⟩ fun removed => ?_
            cases removed with
            | error e => trivial
            | ok removed => trivial
          · rw [if_neg stale]
            trivial

theorem conducts_current (evicts : operation.Evicts key) :
    Routine.Conducts (Permits backend operation) (fun _ _ => True) past
      (backend.current key) := by
  unfold Backend.current
  refine (conducts_evictStale evicts).bind fun past answer _ => ?_
  cases answer with
  | error e => trivial
  | ok evicted => exact ⟨rfl, fun _ => trivial⟩

theorem conducts_release (key : LockKey) (owner : Owner) :
    Routine.Conducts (Permits backend (release key owner)) (fun _ _ => True) past
      (backend.release key owner) := by
  unfold Backend.release
  refine Routine.Conducts.ask_bind rfl fun answer => ?_
  cases answer with
  | error e => trivial
  | ok record? =>
      cases record? with
      | none => trivial
      | some record =>
          by_cases own : record.owner = owner.token
          · simp only [own, if_true]
            exact ⟨⟨rfl, .own owner⟩, fun _ => trivial⟩
          · by_cases lenient : backend.config.ignoreLockOwner = true
            · simp only [own, lenient, if_true, if_false]
              exact ⟨⟨rfl, .anyone owner lenient⟩, fun _ => trivial⟩
            · simp only [own, lenient, if_false]
              trivial

section Acquisition

variable {rounds : Nat} {owner : Owner} {timeout : Timeout}

/-- An attempt that acquires the key ends with the insertion of a record for the owner. -/
theorem conducts_attempt :
    Routine.Conducts (Permits backend (lock rounds key owner timeout))
      (fun past attempt => attempt = .acquired →
        ∃ moment before, past = ⟨.create backend (Record.of key owner moment), .ok true⟩ :: before)
      past (backend.attempt key owner) := by
  unfold Backend.attempt
  refine Routine.Conducts.ask_bind trivial fun moment => ?_
  refine Routine.Conducts.ask_bind ⟨rfl, rounds, key, owner, timeout, moment, rfl, rfl⟩ ?_
  intro answer
  cases answer with
  | error e => simp
  | ok inserted =>
      cases inserted with
      | true => exact fun _ => ⟨moment, _, rfl⟩
      | false =>
          have evicts : (lock rounds key owner timeout).Evicts key := rfl
          refine (conducts_evictStale evicts).bind fun past evicted _ => ?_
          cases evicted with
          | error e => simp
          | ok record? => cases record? <;> simp

theorem conducts_expired (deadline : Deadline) :
    Routine.Conducts (Permits backend operation) (fun _ _ => True) past deadline.expired := by
  unfold Deadline.expired
  cases deadline.moment? with
  | none => trivial
  | some moment => exact ⟨trivial, fun _ => trivial⟩

theorem conducts_pause (deadline : Deadline) (nanos : Nat) :
    Routine.Conducts (Permits backend operation) (fun _ _ => True) past
      (deadline.pause nanos) := by
  unfold Deadline.pause Deadline.remaining
  cases deadline.moment? with
  | none => exact ⟨trivial, fun _ => trivial⟩
  | some moment => exact ⟨trivial, fun now => ⟨trivial, fun _ => trivial⟩⟩

theorem conducts_poll (deadline : Deadline) (attempts : Nat) :
    Routine.Conducts (Permits backend (lock rounds key owner timeout))
      (Yields backend (lock rounds key owner timeout)) past
      (backend.poll key owner deadline attempts) := by
  induction attempts generalizing past with
  | zero => trivial
  | succ attempts hypothesis =>
      refine conducts_attempt.bind fun past attempt inserted => ?_
      cases attempt with
      | acquired => exact fun _ => inserted rfl
      | evicted => exact hypothesis
      | refused =>
          refine (conducts_expired deadline).bind fun past expired _ => ?_
          cases expired with
          | true => simp [Yields]
          | false => exact (conducts_pause deadline _).bind fun past _ _ => hypothesis

theorem conducts_lock :
    Routine.Conducts (Permits backend (lock rounds key owner timeout))
      (Yields backend (lock rounds key owner timeout)) past
      (backend.lock rounds key owner timeout) := by
  unfold Backend.lock
  refine Routine.Conducts.ask_bind rfl fun answer => ?_
  cases answer with
  | error e => simp [Yields]
  | ok granted =>
      cases timeout with
      | never => exact conducts_poll _ rounds
      | after nanos => exact ⟨trivial, fun now => conducts_poll _ rounds⟩

end Acquisition

/-- The conduct of every operation from its beginning. -/
theorem conducts_routine (backend : Backend) (operation : LockOperation) :
    Routine.Conducts (Permits backend operation) (Yields backend operation) []
      (operation.routine backend) := by
  cases operation with
  | lock rounds key owner timeout => exact conducts_lock
  | release key owner => exact conducts_release key owner
  | isHeld key =>
      have evicts : (isHeld key).Evicts key := rfl
      exact (conducts_current evicts).bind fun past answer _ => trivial
  | isHeldBy key owner =>
      have evicts : (isHeldBy key owner).Evicts key := rfl
      exact (conducts_current evicts).bind fun past answer _ => trivial
  | evictStale key =>
      have evicts : (evictStale key).Evicts key := rfl
      exact conducts_evictStale evicts

end LockOperation

namespace Deadline

variable {sort : Call → Prop} (clock : sort .now) (sleeps : ∀ nanos, sort (.sleep nanos))

include clock

theorem only_after (timeout : Timeout) : Routine.Only sort (after timeout) := by
  cases timeout with
  | after nanos => exact ⟨clock, fun _ => trivial⟩
  | never => trivial

theorem only_expired (deadline : Deadline) : Routine.Only sort deadline.expired := by
  unfold expired
  cases deadline.moment? with
  | some moment => exact ⟨clock, fun _ => trivial⟩
  | none => trivial

theorem only_remaining (deadline : Deadline) : Routine.Only sort deadline.remaining := by
  unfold remaining
  cases deadline.moment? with
  | some moment => exact ⟨clock, fun _ => trivial⟩
  | none => trivial

include sleeps

theorem only_pause (deadline : Deadline) (nanos : Nat) : Routine.Only sort (deadline.pause nanos) :=
  (deadline.only_remaining clock).bind fun _ => ⟨sleeps _, fun _ => trivial⟩

end Deadline

end TransactionKit
