import TransactionKit.Proofs.Transaction.Conduct

/-!
The shapes that a transaction lock goes through. A lock that was built is created, locked or
released, and its other parts agree with that (`Standing`): only a locked one has acquired keys,
which are all of its keys, and only a locked one has nested locks, which have acquired nothing.
Every operation leaves such a lock behind, whatever the lock tables answer, of the same owner and
with no backend but its own (`Follows`).
-/

namespace TransactionKit

namespace TransactionLock

open Routine

/-- A nested lock: it counts as locked, but nothing was acquired for it. -/
structure Admitted (inner : TransactionLock) : Prop where
  state : inner.state = .locked
  backend? : inner.backend? = none
  acquired : inner.acquired = []
  nested : inner.nested = []

/-- The shapes of a lock that is not nested. -/
inductive Standing : TransactionLock → Prop where
  | created (objects : SortedMap LockKey (Option Entity)) (backend : Backend) (owner : Owner)
      (relaxed : Bool) : Standing ⟨objects, some backend, owner, .created, relaxed, [], []⟩
  | locked (objects : SortedMap LockKey (Option Entity)) (backend : Backend) (owner : Owner)
      (relaxed : Bool) (nested : List TransactionLock)
      (admitted : ∀ inner ∈ nested, inner.Admitted)
      (covered : relaxed = false → ∀ inner ∈ nested, ∀ key ∈ inner.keys, key ∈ objects.keys) :
      Standing ⟨objects, some backend, owner, .locked, relaxed, objects.keys, nested⟩
  | released (owner : Owner) (relaxed : Bool) :
      Standing ⟨∅, none, owner, .released, relaxed, [], []⟩

theorem standing_ofObjects (backend : Backend) (owner : Owner) (relaxed : Bool)
    (objects : List (LockKey × Option Entity)) :
    (ofObjects backend owner relaxed objects).Standing :=
  .created ..

/-- What is left of a lock when it is released. -/
def finished (lock : TransactionLock) : TransactionLock :=
  ⟨∅, none, lock.owner, .released, lock.relaxed, [], []⟩

theorem standing_finished (lock : TransactionLock) : lock.finished.Standing :=
  .released ..

/-- A created lock has acquired nothing and holds no other lock. -/
theorem Standing.of_created {lock : TransactionLock} (standing : lock.Standing)
    (created : lock.state = .created) : lock.acquired = [] ∧ lock.nested = [] := by
  cases standing with
  | created objects backend owner relaxed => exact ⟨rfl, rfl⟩
  | locked => cases created
  | released => cases created

/-- A lock keeps its shape under another name. -/
theorem Standing.withOwner {lock : TransactionLock} (standing : lock.Standing) (owner : Owner) :
    (lock.withOwner owner).Standing := by
  cases standing with
  | created => exact .created ..
  | locked objects backend _ relaxed nested admitted covered =>
      exact .locked _ _ _ _ _ admitted covered
  | released => exact .released ..

/-- A locked lock has acquired all of its keys from its backend. -/
theorem Standing.of_locked {lock : TransactionLock} (standing : lock.Standing)
    (locked : lock.state = .locked) :
    lock.acquired = lock.keys ∧ ∃ backend, lock.backend? = some backend := by
  cases standing with
  | created => cases locked
  | locked objects backend => exact ⟨rfl, backend, rfl⟩
  | released => cases locked

theorem Standing.admitted_of_mem {lock inner : TransactionLock} (standing : lock.Standing)
    (member : inner ∈ lock.nested) : inner.Admitted := by
  cases standing with
  | created => cases member
  | locked objects backend owner relaxed nested admitted covered => exact admitted inner member
  | released => cases member

/-! ## Release -/

/-- Releasing a nested lock calls nobody. -/
theorem Admitted.release_eq {inner : TransactionLock} (admitted : inner.Admitted) :
    inner.release = .done inner.finished := by
  obtain ⟨objects, backend?, owner, state, relaxed, acquired, nested⟩ := inner
  obtain ⟨rfl, rfl, rfl, rfl⟩ := admitted
  simp [release, releaseNested, finished]

theorem releaseNested_eq {nested : List TransactionLock}
    (admitted : ∀ inner ∈ nested, inner.Admitted) : releaseNested nested = .done () := by
  induction nested with
  | nil => simp [releaseNested]
  | cons inner rest hypothesis =>
      have first := (admitted inner List.mem_cons_self).release_eq
      have others := hypothesis fun other member => admitted other (List.mem_cons_of_mem _ member)
      simp [releaseNested, first, others]

/-- Release the acquired keys, the last first. -/
def giveBack (lock : TransactionLock) : Routine Unit :=
  match lock.backend? with
  | some backend => releaseKeys backend lock.owner lock.acquired.reverse
  | none => .done ()

theorem release_eq_of_admitted {lock : TransactionLock} (unreleased : lock.state ≠ .released)
    (backed : lock.backend? ≠ none) (admitted : ∀ inner ∈ lock.nested, inner.Admitted) :
    lock.release = lock.giveBack >>= fun _ => .done lock.finished := by
  obtain ⟨objects, backend?, owner, state, relaxed, acquired, nested⟩ := lock
  simp only [release, if_neg unreleased, releaseNested_eq admitted, done_bind]
  cases backend? with
  | none => exact absurd rfl backed
  | some backend => rfl

/-- Only the acquired keys are given back when a lock is released. -/
theorem Standing.release_eq {lock : TransactionLock} (standing : lock.Standing) :
    lock.release = lock.giveBack >>= fun _ => .done lock.finished := by
  cases standing with
  | created => exact release_eq_of_admitted (by simp) (by simp) (by simp)
  | locked objects backend owner relaxed nested admitted covered =>
      exact release_eq_of_admitted (by simp) (by simp) admitted
  | released => simp [release, giveBack, finished]

/-! ## What operations make of a lock -/

/-- A lock in one of the shapes that comes from another one: it has the owner, the backend and
the nested locks of that, as far as it has any. -/
structure Follows (before after : TransactionLock) : Prop where
  standing : after.Standing
  owner : after.owner = before.owner
  backend? : after.backend? = none ∨ after.backend? = before.backend?
  nested : after.nested.Sublist before.nested

theorem Follows.refl {lock : TransactionLock} (standing : lock.Standing) : lock.Follows lock :=
  ⟨standing, rfl, .inr rfl, .refl _⟩

theorem follows_finished (lock : TransactionLock) : lock.Follows lock.finished :=
  ⟨lock.standing_finished, rfl, .inl rfl, List.nil_sublist _⟩

/-- The tokens of a lock and of its nested locks. -/
def tokens (lock : TransactionLock) : List String :=
  lock.owner.token :: lock.nested.map fun inner => inner.owner.token

theorem Follows.tokens {before after : TransactionLock} (follows : before.Follows after) :
    after.tokens.Sublist before.tokens := by
  unfold TransactionLock.tokens
  rw [follows.owner]
  exact (follows.nested.map _).cons_cons _

variable {this : TransactionLock}

theorem returns_acquireKeys {rounds : Nat} {backend : Backend} {owner : Owner}
    {deadline : Deadline} {acquired : List LockKey} (keys : List LockKey) :
    Returns (fun result => result.1 = true → result.2 = acquired ++ keys)
      (acquireKeys rounds backend owner deadline acquired keys) := by
  induction keys generalizing acquired with
  | nil => simp [acquireKeys, Returns]
  | cons key rest hypothesis =>
      refine (returns_free _).bind fun got _ => ?_
      cases got with
      | true => exact hypothesis.mono fun result all complete => by simp [all complete]
      | false => simp [Returns]

theorem Standing.returns_lock (standing : this.Standing) (rounds : Nat) (timeout : Timeout) :
    Returns (fun result => this.Follows result.2 ∧ (result.1 = .ok () → result.2.state = .locked))
      (this.lock rounds timeout) := by
  cases standing with
  | created objects backend owner relaxed =>
      refine (returns_free _).bind fun deadline _ => ?_
      refine (returns_acquireKeys _).bind fun (complete, acquired) all => ?_
      cases complete with
      | true =>
          obtain rfl : acquired = objects.keys := all rfl
          have standing := Standing.locked objects backend owner relaxed [] (by simp) (by simp)
          exact ⟨⟨standing, rfl, .inr rfl, .refl _⟩, fun _ => rfl⟩
      | false =>
          refine (returns_free _).bind fun _ _ => ⟨.refl (.created ..), by simp⟩
  | locked objects backend owner relaxed nested admitted covered =>
      exact ⟨.refl (.locked _ _ _ _ _ admitted covered), fun _ => rfl⟩
  | released owner relaxed => exact ⟨.refl (.released ..), by simp⟩

theorem Standing.returns_lockWithin (standing : this.Standing) (rounds : Nat)
    (timeout? : Option Timeout) :
    Returns (fun result => this.Follows result.2 ∧ (result.1 = .ok () → result.2.state = .locked))
      (this.lockWithin rounds timeout?) := by
  cases timeout? with
  | some timeout => exact standing.returns_lock rounds timeout
  | none =>
      simp only [lockWithin, lockDefault]
      split
      · exact standing.returns_lock rounds _
      · exact ⟨.refl standing, by simp⟩

theorem Standing.returns_release (standing : this.Standing) :
    Returns (fun after => after = this.finished) this.release := by
  rw [standing.release_eq]
  exact (returns_free _).bind fun _ _ => rfl

/-! ## Nesting -/

/-- Leaving the innermost level calls nobody. -/
theorem Standing.popNested_eq (standing : this.Standing) {inner : TransactionLock}
    {others : List TransactionLock} (nested : this.nested = others ++ [inner]) :
    this.popNested = .done (some inner.finished, { this with nested := others }) := by
  have admitted : inner.Admitted := standing.admitted_of_mem (by simp [nested])
  rw [popNested_of_concat nested, admitted.release_eq, done_bind]

theorem Standing.dropNested (standing : this.Standing) {others : List TransactionLock}
    (fewer : others.Sublist this.nested) : Standing { this with nested := others } := by
  cases standing with
  | created =>
      obtain rfl := List.sublist_nil.mp fewer
      exact .created ..
  | locked objects backend owner relaxed nested admitted covered =>
      exact .locked _ _ _ _ _ (fun inner member => admitted inner (fewer.subset member))
        fun strict inner member => covered strict inner (fewer.subset member)
  | released =>
      obtain rfl := List.sublist_nil.mp fewer
      exact .released ..

/-- The form in which a lock is nested. -/
def asNested (inner : TransactionLock) : TransactionLock :=
  { inner with backend? := none, state := .locked }

/-- A lock that admits another one is locked, the other one is created, and unless it is relaxed it
covers all keys of that. -/
theorem refusal?_eq_none_iff {outer inner : TransactionLock} :
    outer.refusal? inner = none ↔ outer.state = .locked ∧ inner.state = .created ∧
      (outer.relaxed = false → ∀ key ∈ inner.keys, key ∈ outer.keys) := by
  unfold refusal?
  split
  · rename_i unlocked
    simp [unlocked]
  · rename_i locked
    split
    · rename_i used
      simp [used]
    · rename_i fresh
      simp only [ne_eq, Decidable.not_not] at locked fresh
      cases relaxed : outer.relaxed with
      | true => simp [locked, fresh]
      | false =>
          simp [locked, fresh, covers, keys, SortedMap.contains_iff_mem_keys]

theorem Standing.nest {outer inner : TransactionLock} (standing : outer.Standing)
    (fresh : inner.Standing) (admits : outer.refusal? inner = none) :
    Standing { outer with nested := outer.nested ++ [inner.asNested] } := by
  obtain ⟨locked, created, covers⟩ := refusal?_eq_none_iff.mp admits
  cases standing with
  | created => cases locked
  | released => cases locked
  | locked objects backend owner relaxed nested admitted covered =>
      cases fresh with
      | locked => cases created
      | released => cases created
      | created innerObjects innerBackend innerOwner innerRelaxed =>
          refine .locked _ _ _ _ _ (fun other member => ?_) fun strict other member => ?_
          · rcases List.mem_append.mp member with old | new
            · exact admitted other old
            · rw [List.mem_singleton.mp new]
              exact ⟨rfl, rfl, rfl, rfl⟩
          · rcases List.mem_append.mp member with old | new
            · exact covered strict other old
            · rw [List.mem_singleton.mp new]
              exact covers strict

end TransactionLock

end TransactionKit
