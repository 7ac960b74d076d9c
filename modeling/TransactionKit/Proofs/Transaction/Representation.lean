import TransactionKit.Proofs.Transaction.Standing

/-!
The parts of a transaction lock never drift apart. Whatever is done with a lock, and whatever the
lock tables answer, its state says what its other parts are (`Represented`), it is never earlier in
its life than before, and nesting a fresh lock or leaving a level asks no lock table for anything:
`Reachable.stays_represented`.
-/

namespace TransactionKit

/-- A state stays, or it moves on. -/
inductive LockState.MayBecome : LockState → LockState → Prop where
  | same (state : LockState) : MayBecome state state
  | locked : MayBecome .created .locked
  | abandoned : MayBecome .created .released
  | released : MayBecome .locked .released

namespace LockState

theorem mayBecome_of_created (state : LockState) : MayBecome .created state := by
  cases state with
  | created => exact .same _
  | locked => exact .locked
  | released => exact .abandoned

theorem mayBecome_of_released {state after : LockState} (released : after = .released) :
    state.MayBecome after := by
  rw [released]
  cases state with
  | created => exact .abandoned
  | locked => exact .released
  | released => exact .same _

theorem mayBecome_of_eq {state after : LockState} (same : after = state) :
    state.MayBecome after := by
  rw [same]
  exact .same _

end LockState

namespace TransactionLock

open Routine

/-! ## Whatever can be done with a lock -/

/-- What can be done with a lock. To give it up is to release it. -/
inductive Operation where
  | withOwner (owner : Owner)
  | lock (rounds : Nat) (timeout? : Option Timeout)
  | release
  | pushNested (inner : TransactionLock)
  | popNested
  | isLocked

/-- How an operation is carried out: the lock after it, and the lock that it hands out. -/
def Operation.routine (this : TransactionLock) :
    Operation → Routine (TransactionLock × Option TransactionLock)
  | withOwner owner => return (this.withOwner owner, none)
  | lock rounds timeout? => do
    let (_, after) ← this.lockWithin rounds timeout?
    return (after, none)
  | release => do return (← this.release, none)
  | pushNested inner => do
    let (_, after) ← this.pushNested inner
    return (after, none)
  | popNested => do
    let (popped?, after) ← this.popNested
    return (after, popped?)
  | isLocked => do
    let (_, after) ← this.isLocked
    return (after, none)

/-- The locks that there can be: those that are built, what an operation makes of one of them, and
what it hands out, whatever the lock tables answer in the meantime. -/
inductive Reachable : TransactionLock → Prop where
  | build (backend : Backend) (owner : Owner) (relaxed : Bool)
      (objects : List (LockKey × Option Entity)) : Reachable (ofObjects backend owner relaxed objects)
  | after {this after : TransactionLock} {operation : Operation} {past : List Exchange}
      {given? : Option TransactionLock} (reachable : Reachable this)
      (nested : ∀ inner, operation = .pushNested inner → Reachable inner)
      (ended : Leads (operation.routine this) past (.done (after, given?))) : Reachable after
  | given {this after given : TransactionLock} {operation : Operation} {past : List Exchange}
      (reachable : Reachable this)
      (nested : ∀ inner, operation = .pushNested inner → Reachable inner)
      (ended : Leads (operation.routine this) past (.done (after, some given))) : Reachable given

/-- What an operation makes of a lock, be it an operation on the lock itself or on the one that it is
nested in. -/
inductive Moves : TransactionLock → TransactionLock → Prop where
  | operated {this after : TransactionLock} {operation : Operation} {past : List Exchange}
      {given? : Option TransactionLock}
      (ended : Leads (operation.routine this) past (.done (after, given?))) : Moves this after
  | admitted {outer inner after entered : TransactionLock} {past : List Exchange}
      (ended : Leads (outer.pushNested inner) past (.done (.ok (), after)))
      (innermost : after.nested.getLast? = some entered) : Moves inner entered
  | popped {outer inner after popped : TransactionLock} {past : List Exchange}
      (innermost : outer.nested.getLast? = some inner)
      (ended : Leads outer.popNested past (.done (some popped, after))) : Moves inner popped

/-- The parts of a lock agree with its state. -/
structure Represented (lock : TransactionLock) : Prop where
  created : lock.state = .created →
    (∃ backend, lock.backend? = some backend) ∧ lock.acquired = [] ∧ lock.nested = []
  locked : lock.state = .locked → (∃ backend, lock.backend? = some backend) →
    lock.acquired = lock.keys ∧ lock.acquired.Pairwise (· < ·)
  admitted : lock.state = .locked → lock.backend? = none → lock.acquired = [] ∧ lock.nested = []
  released : lock.state = .released →
    lock.backend? = none ∧ lock.keys = [] ∧ lock.acquired = [] ∧ lock.nested = []
  nested : ∀ inner ∈ lock.nested, inner.state = .locked ∧ inner.backend? = none ∧
    (lock.relaxed = false → ∀ key ∈ inner.keys, key ∈ lock.keys)

theorem Standing.represented {lock : TransactionLock} (standing : lock.Standing) :
    lock.Represented := by
  cases standing with
  | created objects backend owner relaxed =>
      constructor <;> simp
  | released owner relaxed =>
      constructor <;> simp [keys]
      rfl
  | locked objects backend owner relaxed nested admitted covered =>
      constructor
      case locked => exact fun _ _ => ⟨rfl, objects.ascending_keys⟩
      case nested =>
        intro inner member
        have within := admitted inner member
        exact ⟨within.state, within.backend?, fun strict => covered strict inner member⟩
      all_goals simp

theorem Admitted.represented {inner : TransactionLock} (admitted : inner.Admitted) :
    inner.Represented := by
  obtain ⟨objects, backend?, owner, state, relaxed, acquired, nested⟩ := inner
  obtain ⟨rfl, rfl, rfl, rfl⟩ := admitted
  constructor <;> simp

variable {this : TransactionLock}

/-! ## The shapes are kept -/

theorem returns_release_of_admitted (unreleased : this.state ≠ .released)
    (backed : this.backend? ≠ none) (admitted : ∀ inner ∈ this.nested, inner.Admitted) :
    Returns Standing this.release := by
  rw [release_eq_of_admitted unreleased backed admitted]
  exact (returns_free _).bind fun _ _ => this.standing_finished

theorem Standing.returns_isLocked (standing : this.Standing) :
    Returns (fun result => result.2.Standing) this.isLocked := by
  cases id standing with
  | created | released => exact standing
  | locked objects backend owner relaxed nested admitted covered =>
      refine (returns_free _).bind fun lost _ => ?_
      cases lost with
      | false => exact standing
      | true =>
          refine (returns_free _).bind fun left _ => ?_
          exact (returns_release_of_admitted (by simp) (by simp) admitted).bind fun _ => id

theorem Standing.returns_pushNested {inner : TransactionLock} (standing : this.Standing)
    (fresh : inner.Standing) :
    Returns (fun result => result.2.Standing) (this.pushNested inner) := by
  unfold pushNested
  split
  · exact (returns_free _).bind fun _ _ => standing
  · rename_i admits
    exact standing.nest fresh admits

theorem Standing.returns_popNested (standing : this.Standing) :
    Returns (fun result => result.2.Standing ∧ ∀ popped ∈ result.1, popped.Standing)
      this.popNested := by
  rcases List.eq_nil_or_concat this.nested with flat | ⟨others, inner, nested⟩
  · rw [popNested_of_nil flat]
    exact ⟨standing, by simp⟩
  · rw [List.concat_eq_append] at nested
    rw [standing.popNested_eq nested]
    refine ⟨standing.dropNested (by simp [nested]), fun popped member => ?_⟩
    cases member
    exact inner.standing_finished

theorem Standing.returns_routine (standing : this.Standing) (operation : Operation)
    (nested : ∀ inner, operation = .pushNested inner → inner.Standing) :
    Returns (fun result => result.1.Standing ∧ ∀ given ∈ result.2, given.Standing)
      (operation.routine this) := by
  have alone {after : TransactionLock} (standing : after.Standing) :
      after.Standing ∧ ∀ given ∈ (none : Option TransactionLock), given.Standing :=
    ⟨standing, by simp⟩
  cases operation with
  | withOwner owner => exact alone (standing.withOwner owner)
  | lock rounds timeout? =>
      exact (standing.returns_lockWithin rounds timeout?).bind fun _ follows =>
        alone follows.1.standing
  | release =>
      refine standing.returns_release.bind fun after finished => ?_
      rw [finished]
      exact alone this.standing_finished
  | pushNested inner =>
      exact (standing.returns_pushNested (nested inner rfl)).bind fun _ => alone
  | popNested => exact standing.returns_popNested.bind fun _ => id
  | isLocked => exact standing.returns_isLocked.bind fun _ => alone

theorem Reachable.standing (reachable : this.Reachable) : this.Standing := by
  induction reachable with
  | build backend owner relaxed objects => exact standing_ofObjects backend owner relaxed objects
  | after reachable nested ended standing fresh =>
      exact ((standing.returns_routine _ fresh).leads ended).1
  | given reachable nested ended standing fresh =>
      exact ((standing.returns_routine _ fresh).leads ended).2 _ rfl

/-! ## The state moves on -/

theorem returns_released (this : TransactionLock) :
    Returns (fun after => after.state = .released) this.release := by
  obtain ⟨objects, backend?, owner, state, relaxed, acquired, nested⟩ := this
  unfold release
  split
  · assumption
  · refine (returns_free _).bind fun _ _ => ?_
    cases backend? with
    | none => exact rfl
    | some backend => exact (returns_free _).bind fun _ _ => rfl

theorem returns_lock_state (rounds : Nat) (timeout : Timeout) :
    Returns (fun result => this.state.MayBecome result.2.state) (this.lock rounds timeout) := by
  cases state : this.state with
  | created => exact (returns_free _).mono fun _ _ => LockState.mayBecome_of_created _
  | locked | released =>
      simp only [TransactionLock.lock, state]
      rw [← state]
      exact .same _

theorem returns_lockWithin_state (rounds : Nat) (timeout? : Option Timeout) :
    Returns (fun result => this.state.MayBecome result.2.state)
      (this.lockWithin rounds timeout?) := by
  cases timeout? with
  | some timeout => exact returns_lock_state rounds timeout
  | none =>
      simp only [lockWithin, lockDefault]
      split
      · exact returns_lock_state rounds _
      · exact .same _

theorem returns_pushNested_state (inner : TransactionLock) :
    Returns (fun result => result.2.state = this.state) (this.pushNested inner) := by
  unfold pushNested
  split
  · exact (returns_free _).bind fun _ _ => rfl
  · exact rfl

theorem returns_popNested_state :
    Returns (fun result => result.2.state = this.state ∧
      ∀ popped ∈ result.1, popped.state = .released) this.popNested := by
  unfold popNested
  split
  · exact ⟨rfl, by simp⟩
  · rename_i inner innermost
    refine inner.returns_released.bind fun popped released => ⟨rfl, ?_⟩
    intro other member
    cases member
    exact released

theorem returns_isLocked_state :
    Returns (fun result => this.state.MayBecome result.2.state) this.isLocked := by
  unfold isLocked
  split
  · refine (returns_free _).bind fun lost _ => ?_
    cases lost with
    | false => exact .same _
    | true =>
        refine (returns_free _).bind fun left _ => ?_
        exact (returns_released _).bind fun _ => LockState.mayBecome_of_released
  · exact .same _
  · exact .same _

theorem returns_routine_state (operation : Operation) :
    Returns (fun result => this.state.MayBecome result.1.state) (operation.routine this) := by
  cases operation with
  | withOwner owner => exact .same _
  | lock rounds timeout? => exact (returns_lockWithin_state rounds timeout?).bind fun _ => id
  | release => exact this.returns_released.bind fun _ => LockState.mayBecome_of_released
  | pushNested inner =>
      exact (returns_pushNested_state inner).bind fun _ => LockState.mayBecome_of_eq
  | popNested =>
      exact returns_popNested_state.bind fun _ kept => LockState.mayBecome_of_eq kept.1
  | isLocked => exact returns_isLocked_state.bind fun _ => id

/-- A lock is nested only if it is created, and is locked then. -/
theorem returns_pushNested_entered (inner : TransactionLock) :
    Returns (fun result => result.1 = .ok () → inner.state = .created ∧
        result.2.nested.getLast? = some inner.asNested) (this.pushNested inner) := by
  unfold pushNested
  split
  · exact (returns_free _).bind fun _ _ refused => by cases refused
  · rename_i admits
    exact fun _ => ⟨(refusal?_eq_none_iff.mp admits).2.1, List.getLast?_concat⟩

theorem Moves.mayBecome {before after : TransactionLock} (moves : before.Moves after) :
    before.state.MayBecome after.state := by
  cases moves with
  | operated ended => exact (returns_routine_state _).leads ended
  | admitted ended innermost =>
      obtain ⟨created, last⟩ := (returns_pushNested_entered before).leads ended rfl
      rw [created]
      exact LockState.mayBecome_of_created _
  | popped innermost ended =>
      exact LockState.mayBecome_of_released ((returns_popNested_state.leads ended).2 _ rfl)

/-! ## What asks no lock table -/

theorem Standing.discard_eq_of_created (standing : this.Standing)
    (created : this.state = .created) : this.discard = .done () := by
  obtain ⟨vacant, flat⟩ := standing.of_created created
  have nothing : this.giveBack = .done () := by
    unfold giveBack
    cases this.backend? with
    | none => rfl
    | some backend =>
        rw [vacant]
        rfl
  rw [discard, standing.release_eq, nothing]
  rfl

theorem Standing.exists_pushNested_eq {inner : TransactionLock} (fresh : inner.Standing)
    (created : inner.state = .created) : ∃ result, this.pushNested inner = .done result := by
  unfold pushNested
  split
  · rw [fresh.discard_eq_of_created created]
    exact ⟨_, rfl⟩
  · exact ⟨_, rfl⟩

theorem Standing.exists_popNested_eq (standing : this.Standing) :
    ∃ result, this.popNested = .done result := by
  rcases List.eq_nil_or_concat this.nested with flat | ⟨others, inner, nested⟩
  · exact ⟨_, popNested_of_nil flat⟩
  · rw [List.concat_eq_append] at nested
    exact ⟨_, standing.popNested_eq nested⟩

/-- Whatever has been done with a lock, and whatever the lock tables answered, its parts and those of
the locks nested in it agree with their states, and whatever is done next, no state moves back.
Leaving a level calls nobody, and neither does nesting a created lock, whether it is admitted or
refused. -/
theorem Reachable.stays_represented (reachable : this.Reachable) :
    (∀ lock ∈ this :: this.nested, lock.Represented ∧
      ∀ after, lock.Moves after → lock.state.MayBecome after.state) ∧
    (∃ result, this.popNested = .done result) ∧
    ∀ inner, inner.Reachable → inner.state = .created →
      ∃ result, this.pushNested inner = .done result := by
  have standing := reachable.standing
  refine ⟨fun lock member => ⟨?_, fun after moves => moves.mayBecome⟩,
    standing.exists_popNested_eq, fun inner fresh created => ?_⟩
  · rcases List.mem_cons.mp member with rfl | nested
    · exact standing.represented
    · exact (standing.admitted_of_mem nested).represented
  · exact fresh.standing.exists_pushNested_eq created

/-- A world without other owners, in which every access succeeds. -/
def vacant : Handler Unit
  | .request .., s => (.ok (), s)
  | .create .., s => (.ok true, s)
  | .read .., s => (.ok none, s)
  | .remove .., s => (.ok false, s)
  | .now, s => (0, s)
  | .sleep _, s => ((), s)
  | .connect _, s => (.ok none, s)
  | .commit _, s => (.ok (), s)
  | .rollback _, s => (.ok (), s)
  | .close _, s => (.ok (), s)

/-- A strict lock on two keys, given in another order and with a repetition. -/
def outerLock : TransactionLock :=
  ofKeys ⟨0, {}⟩ ⟨"outer", "outer"⟩ false [⟨"b"⟩, ⟨"a"⟩, ⟨"b"⟩]

/-- A relaxed lock on one of the keys. -/
def innerLock : TransactionLock :=
  ofKeys ⟨1, {}⟩ ⟨"inner", "inner"⟩ true [⟨"b"⟩]

/-- The first lock when it is locked. -/
def outerLocked : TransactionLock :=
  { outerLock with state := .locked, acquired := [⟨"a"⟩, ⟨"b"⟩] }

/-- The first lock with the second one nested in it. -/
def outerNesting : TransactionLock :=
  { outerLocked with nested := [innerLock.asNested] }

theorem reachable_outerNesting : outerNesting.Reachable := by
  have outer : outerLock.Reachable := .build ..
  have inner : innerLock.Reachable := .build ..
  have locks : ((Operation.lock 1 (some (.after 0))).routine outerLock).run vacant () =
      (some (outerLocked, none), ()) := rfl
  have nests : ((Operation.pushNested innerLock).routine outerLocked).run vacant () =
      (some (outerNesting, none), ()) := rfl
  obtain ⟨_, locked⟩ := exists_leads_of_run locks
  obtain ⟨_, nested⟩ := exists_leads_of_run nests
  refine .after (.after outer (fun _ other => by cases other) locked) (fun other same => ?_) nested
  cases same
  exact inner

theorem outerNesting_represented :
    outerNesting.Reachable ∧ outerNesting.Represented ∧ innerLock.asNested.Represented ∧
      outerNesting.state = .locked ∧ outerNesting.acquired = [⟨"a"⟩, ⟨"b"⟩] ∧
      ∃ result, outerNesting.popNested = .done result := by
  have reachable := reachable_outerNesting
  obtain ⟨represented, popped, -⟩ := reachable.stays_represented
  exact ⟨reachable, (represented _ List.mem_cons_self).1,
    (represented innerLock.asNested (by simp [outerNesting])).1, rfl, rfl, popped⟩

end TransactionLock

end TransactionKit
