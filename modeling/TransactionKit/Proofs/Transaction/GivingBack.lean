import TransactionKit.Proofs.Transaction.Gathering

/-!
A lock gives back what it took, in the midst of others. The owners of a lock are those it ever had,
and nobody else inserts or removes records of theirs (`crowded`). Whatever is done with the lock,
each record of its owners is under a key that it holds for the owner it has then, unless it got
another owner while it held the key: the records that were left to the owner before are the only
ones that a release can miss (`Life.release_leaves`).
-/

namespace TransactionKit

open Routine Tables

/-- No access fails, and others may act after every call. -/
def Tables.crowded (mine : String → Prop) : Environment Tables :=
  visited mine (fun _ => True) answers

namespace TransactionLock

/-- What a lock holds: the table, the key and the owner of every record. -/
def holdings (lock : TransactionLock) : List (Nat × LockKey × String) :=
  match lock.backend? with
  | some backend => lock.acquired.map fun key => (backend.id, key, lock.owner.token)
  | none => []

theorem mem_holdings_iff {lock : TransactionLock} {n : Nat} {key : LockKey} {token : String} :
    (n, key, token) ∈ lock.holdings ↔ lock.Holds n key ∧ token = lock.owner.token := by
  unfold holdings Holds
  cases lock.backend? with
  | none => simp
  | some backend =>
    simp only [List.mem_map, Prod.mk.injEq, Option.some.injEq]
    constructor
    · rintro ⟨key, member, rfl, rfl, rfl⟩
      exact ⟨⟨backend, rfl, rfl, member⟩, rfl⟩
    · rintro ⟨⟨backend, rfl, rfl, member⟩, rfl⟩
      exact ⟨key, member, rfl, rfl, rfl⟩

/-- The life of a lock whose owners are all among some: what is done with it, while others act in
between. The list has what the lock held each time when it got another owner. -/
inductive Life (mine : String → Prop) :
    Tables → TransactionLock → List (Nat × LockKey × String) → Prop where
  | build {s : Tables} (backend : Backend) (owner : Owner) (relaxed : Bool)
      (objects : List (LockKey × Option Entity)) (own : mine owner.token)
      (unused : ∀ n key record, s.read n key = some record → ¬ mine record.owner) :
      Life mine s (ofObjects backend owner relaxed objects) []
  | others {s t : Tables} {this : TransactionLock} {left : List (Nat × LockKey × String)}
      (life : Life mine s this left) (others : Others mine s t) : Life mine t this left
  | withOwner {s : Tables} {this : TransactionLock} {left : List (Nat × LockKey × String)}
      (life : Life mine s this left) (owner : Owner) (own : mine owner.token) :
      Life mine s (this.withOwner owner) (this.holdings ++ left)
  | lock {s t : Tables} {this after : TransactionLock} {left : List (Nat × LockKey × String)}
      {rounds : Nat} {timeout? : Option Timeout} {trace : List (Moment Tables)}
      {answer : Except Error Unit} (life : Life mine s this left)
      (performed : Performs (crowded mine) s (this.lockWithin rounds timeout?) trace
        (answer, after) t) : Life mine t after left
  | pushNested {s t : Tables} {this inner after : TransactionLock}
      {left : List (Nat × LockKey × String)} {trace : List (Moment Tables)}
      {answer : Except Error Unit} (life : Life mine s this left) (standing : inner.Standing)
      (performed : Performs (crowded mine) s (this.pushNested inner) trace (answer, after) t) :
      Life mine t after left
  | popNested {s t : Tables} {this after : TransactionLock} {popped? : Option TransactionLock}
      {left : List (Nat × LockKey × String)} {trace : List (Moment Tables)}
      (life : Life mine s this left)
      (performed : Performs (crowded mine) s this.popNested trace (popped?, after) t) :
      Life mine t after left
  | isLocked {s t : Tables} {this after : TransactionLock} {left : List (Nat × LockKey × String)}
      {trace : List (Moment Tables)} {valid : Bool} (life : Life mine s this left)
      (performed : Performs (crowded mine) s this.isLocked trace (valid, after) t) :
      Life mine t after left

/-! ## What an operation does to the records of the owner -/

/-- Every record of ours was there before, and the lock holds it still if it did, or it is a new one
of the owner that the lock holds. -/
structure Carries (mine : String → Prop) (before after : TransactionLock) (s t : Tables) :
    Prop where
  standing : after.Standing
  owner : after.owner = before.owner
  origin : ∀ n key record, mine record.owner → t.read n key = some record →
    s.read n key = some record ∧
        (record.owner = before.owner.token → before.Holds n key → after.Holds n key) ∨
      record.owner = before.owner.token ∧ after.Holds n key

section Operations

variable {mine : String → Prop} {before after : TransactionLock} {s t u : Tables}
  {trace : List (Moment Tables)}

theorem Carries.of_fades (fades : Fades mine s t) (standing : after.Standing)
    (owner : after.owner = before.owner) (holds : ∀ n key, before.Holds n key → after.Holds n key) :
    Carries mine before after s t where
  standing := standing
  owner := owner
  origin n key record ours found := .inl ⟨fades n key record ours found, fun _ => holds n key⟩

/-- A lock that holds nothing any more has carried everything out. -/
theorem Carries.of_given (fades : Fades mine s t)
    (gone : ∀ n key, before.Holds n key → ¬ t.Held n key before.owner.token) :
    Carries mine before before.finished s t where
  standing := before.standing_finished
  owner := rfl
  origin n key record ours found := by
    refine .inl ⟨fades n key record ours found, ?_⟩
    intro same holds
    exact absurd ⟨record, found, same⟩ (gone n key holds)

theorem carries_giveBack (own : mine before.owner.token)
    (performed : Performs (crowded mine) s before.giveBack trace () t) :
    Carries mine before before.finished s t := by
  unfold giveBack at performed
  cases backend? : before.backend? with
  | none =>
    rw [backend?] at performed
    obtain ⟨rfl, -, rfl⟩ := performs_done_iff.mp performed
    apply Carries.of_given (.refl mine _)
    rintro n key ⟨backend, same, -⟩
    rw [backend?] at same
    cases same
  | some backend =>
    rw [backend?] at performed
    apply Carries.of_given
    · exact fades_of_only (fun token => only_releaseKeys backend before.owner _)
        (performed.mono visited_faltering)
    · rintro n key ⟨other, same, rfl, member⟩
      rw [backend?] at same
      cases same
      exact not_held_of_releaseKeys own performed key (List.mem_reverse.mpr member)

theorem Standing.carries_release (standing : before.Standing) (own : mine before.owner.token)
    (performed : Performs (crowded mine) s before.release trace after t) :
    Carries mine before after s t := by
  rw [standing.release_eq] at performed
  obtain ⟨_, rfl, giving⟩ := performs_bind_done_iff.mp performed
  exact carries_giveBack own giving

theorem Standing.carries_lock (standing : before.Standing) (own : mine before.owner.token)
    {rounds : Nat} {timeout : Timeout} {answer : Except Error Unit}
    (performed : Performs (crowded mine) s (before.lock rounds timeout) trace (answer, after) t) :
    Carries mine before after s t := by
  have follows := (performed.returned (standing.returns_lock rounds timeout)).1
  cases created : before.state with
  | locked | released =>
    unfold TransactionLock.lock at performed
    rw [created] at performed
    obtain ⟨rfl, same, rfl⟩ := performs_done_iff.mp performed
    cases same
    exact .of_fades (.refl mine _) standing rfl fun _ _ => id
  | created =>
    obtain ⟨backend, backend?⟩ := standing.exists_backend created
    have vacant := (standing.of_created created).1
    obtain ⟨complete, got, u, first, second, rfl, acquiring, ended⟩ :=
      standing.performs_lock_split created backend? performed
    have collects := standing.collects_acquisition created own
      (acquiring.mono visited_faltering)
    refine ⟨follows.standing, follows.owner, ?_⟩
    intro n key record ours found
    rcases ended with ⟨-, rfl, -, rfl, -, rfl⟩ | ⟨-, -, rfl, releasing⟩
    · rcases collects.changes.origin n key record found with old | new
      · exact .inl ⟨old, fun _ holds => absurd holds (not_holds_of_vacant vacant)⟩
      · obtain ⟨rfl, member, same⟩ := new ours
        exact .inr ⟨same, backend, backend?, rfl, member⟩
    · have fades := fades_of_only (fun token => only_releaseKeys backend after.owner _)
        (releasing.mono visited_faltering)
      left
      rcases collects.changes.origin n key record (fades n key record ours found) with old | new
      · exact ⟨old, fun _ => id⟩
      · -- what was acquired has been given back
        obtain ⟨rfl, member, same⟩ := new ours
        exact absurd ⟨record, found, same⟩
          (not_held_of_releaseKeys own releasing key (List.mem_reverse.mpr member))

theorem Standing.carries_lockWithin (standing : before.Standing) (own : mine before.owner.token)
    {rounds : Nat} {timeout? : Option Timeout} {answer : Except Error Unit}
    (performed : Performs (crowded mine) s (before.lockWithin rounds timeout?) trace
      (answer, after) t) : Carries mine before after s t := by
  cases timeout? with
  | some timeout => exact standing.carries_lock own performed
  | none =>
    simp only [lockWithin, lockDefault] at performed
    split at performed
    · exact standing.carries_lock own performed
    · obtain ⟨rfl, same, rfl⟩ := performs_done_iff.mp performed
      cases same
      exact .of_fades (.refl mine _) standing rfl fun _ _ => id

theorem Standing.carries_pushNested (standing : before.Standing) {inner : TransactionLock}
    (fresh : inner.Standing) {answer : Except Error Unit}
    (performed : Performs (crowded mine) s (before.pushNested inner) trace (answer, after) t) :
    Carries mine before after s t := by
  have fades := fades_of_only (fun token => before.only_pushNested inner)
    (performed.mono visited_faltering)
  unfold pushNested at performed
  split at performed
  · obtain ⟨_, same, -⟩ := performs_bind_done_iff.mp performed
    cases same
    exact .of_fades fades standing rfl fun _ _ => id
  · rename_i admits
    obtain ⟨-, same, -⟩ := performs_done_iff.mp performed
    cases same
    exact .of_fades fades (standing.nest fresh admits) rfl fun _ _ => id

theorem Standing.carries_popNested (standing : before.Standing) {popped? : Option TransactionLock}
    (performed : Performs (crowded mine) s before.popNested trace (popped?, after) t) :
    Carries mine before after s t := by
  rcases List.eq_nil_or_concat before.nested with flat | ⟨others, inner, nested⟩
  · rw [popNested_of_nil flat] at performed
    obtain ⟨-, same, rfl⟩ := performs_done_iff.mp performed
    cases same
    exact .of_fades (.refl mine _) standing rfl fun _ _ => id
  · rw [List.concat_eq_append] at nested
    rw [standing.popNested_eq nested] at performed
    obtain ⟨-, same, rfl⟩ := performs_done_iff.mp performed
    cases same
    have fewer : others.Sublist before.nested := by simp [nested]
    have dropped := standing.dropNested fewer
    exact .of_fades (.refl mine _) dropped rfl fun _ _ => id

theorem Standing.carries_isLocked (standing : before.Standing) (own : mine before.owner.token)
    {valid : Bool}
    (performed : Performs (crowded mine) s before.isLocked trace (valid, after) t) :
    Carries mine before after s t := by
  have fades := fades_of_only (fun token => before.only_isLocked) (performed.mono visited_faltering)
  cases id standing with
  | created | released =>
    obtain ⟨-, same, -⟩ := performs_done_iff.mp performed
    cases same
    exact .of_fades fades standing rfl fun _ _ => id
  | locked objects backend owner relaxed nested admitted covered =>
    obtain ⟨lost, u, first, second, rfl, -, performed⟩ := performs_bind_iff.mp performed
    cases lost with
    | false =>
      obtain ⟨-, same, -⟩ := performs_done_iff.mp performed
      cases same
      exact .of_fades fades standing rfl fun _ _ => id
    | true =>
      obtain ⟨left, v, second, third, rfl, filtering, performed⟩ := performs_bind_iff.mp performed
      obtain ⟨gone, same, releasing⟩ := performs_bind_done_iff.mp performed
      cases same
      rw [release_eq_of_admitted (by simp) (by simp) admitted] at releasing
      obtain ⟨_, rfl, giving⟩ := performs_bind_done_iff.mp releasing
      apply Carries.of_given fades
      rintro n key ⟨other, same, rfl, member⟩
      cases same
      by_cases kept : key ∈ left
      · exact not_held_of_releaseKeys own giving key (List.mem_reverse.mpr kept)
      · -- the check was right that the key is lost, and giving the others back does not change that
        have later := fades_of_only (fun token => only_releaseKeys backend owner left.reverse)
          (giving.mono visited_faltering)
        have lost := not_held_of_notLost own (filtering.mono visited_faltering) key member kept
        exact fun held => lost (later.held own held)

end Operations

/-! ## The life of a lock -/

/-- Every record of ours is under a key that the lock holds for its owner, or it was left behind. -/
structure Accountable (mine : String → Prop) (s : Tables) (this : TransactionLock)
    (left : List (Nat × LockKey × String)) : Prop where
  standing : this.Standing
  own : mine this.owner.token
  accounts : ∀ n key record, mine record.owner → s.read n key = some record →
    record.owner = this.owner.token ∧ this.Holds n key ∨ (n, key, record.owner) ∈ left

section Lives

variable {mine : String → Prop} {this after : TransactionLock} {s t : Tables}
  {left : List (Nat × LockKey × String)}

theorem Accountable.carry (accountable : Accountable mine s this left)
    (carries : Carries mine this after s t) : Accountable mine t after left where
  standing := carries.standing
  own := by
    rw [carries.owner]
    exact accountable.own
  accounts n key record ours found := by
    rw [carries.owner]
    rcases carries.origin n key record ours found with ⟨old, still⟩ | new
    · apply (accountable.accounts n key record ours old).imp_left
      exact fun ⟨same, holds⟩ => ⟨same, still same holds⟩
    · exact .inl new

/-- What the lock holds is left behind when it gets another owner. -/
theorem Accountable.rename (accountable : Accountable mine s this left) {owner : Owner}
    (own : mine owner.token) :
    Accountable mine s (this.withOwner owner) (this.holdings ++ left) where
  standing := accountable.standing.withOwner owner
  own := own
  accounts n key record ours found := by
    right
    rw [List.mem_append, mem_holdings_iff]
    exact (accountable.accounts n key record ours found).imp_left And.symm

theorem Life.accountable (life : Life mine s this left) : Accountable mine s this left := by
  induction life with
  | build backend owner relaxed objects own unused =>
    refine ⟨standing_ofObjects backend owner relaxed objects, own, ?_⟩
    intro n key record ours found
    exact absurd ours (unused n key record found)
  | others life others ih =>
    refine ⟨ih.standing, ih.own, ?_⟩
    intro n key record ours found
    exact ih.accounts n key record ours ((others.own n key record ours).mp found)
  | withOwner life owner own ih => exact ih.rename own
  | lock life performed ih => exact ih.carry (ih.standing.carries_lockWithin ih.own performed)
  | pushNested life fresh performed ih =>
    exact ih.carry (ih.standing.carries_pushNested fresh performed)
  | popNested life performed ih => exact ih.carry (ih.standing.carries_popNested performed)
  | isLocked life performed ih => exact ih.carry (ih.standing.carries_isLocked ih.own performed)

/-- When a lock is released or given up, the only records of its owners that can be left are those
that it held when it got another owner. -/
theorem Life.release_leaves {trace : List (Moment Tables)} (life : Life mine s this left)
    (ended : (∃ after, Performs (crowded mine) s this.release trace after t) ∨
      Performs (crowded mine) s this.discard trace () t) {n : Nat} {key : LockKey} {record : Record}
    (found : t.read n key = some record) (ours : mine record.owner) :
    (n, key, record.owner) ∈ left := by
  obtain ⟨standing, own, accounts⟩ := life.accountable
  obtain ⟨after, released⟩ : ∃ after, Performs (crowded mine) s this.release trace after t := by
    rcases ended with released | discarded
    · exact released
    · obtain ⟨after, -, released⟩ := performs_bind_done_iff.mp discarded
      exact ⟨after, released⟩
  have carries := standing.carries_release own released
  have finished := released.returned standing.returns_release
  subst finished
  rcases carries.origin n key record ours found with ⟨old, still⟩ | ⟨-, holds⟩
  · rcases accounts n key record ours old with ⟨same, holds⟩ | behind
    · exact absurd (still same holds) not_holds_finished
    · exact behind
  · exact absurd holds not_holds_finished

end Lives

theorem crowded_of_answers {mine : String → Prop} {s : Tables} {c : Call} {answer : c.Answer}
    {t : Tables} (answered : answers s c answer t) : crowded mine s c answer t :=
  ⟨t, answered, .inl rfl⟩

/-- A lock on one key of a table. -/
def singleLock (token : String) : TransactionLock :=
  ofKeys ⟨0, {}⟩ ⟨token, token⟩ false [⟨"k"⟩]

/-- The same lock when it is locked. -/
def singleLocked (token : String) : TransactionLock :=
  { singleLock token with state := .locked, acquired := [⟨"k"⟩] }

/-- A table with one record. -/
def singleTable (token : String) : Tables :=
  ⟨0, Function.update (fun _ => .empty) 0 ⟨[⟨⟨"k"⟩, token, token, .ofNanos 0⟩]⟩⟩

/-- The owners of a lock that is renamed once. -/
def firstOrSecond (token : String) : Prop :=
  token ∈ ["first", "second"]

theorem performs_singleLock (token : String) : ∃ trace,
    Performs (crowded firstOrSecond) ⟨0, fun _ => .empty⟩
      ((singleLock token).lockWithin 1 (some (.after 0))) trace
      (.ok (), singleLocked token) (singleTable token) := by
  have locking : Performs answers ⟨0, fun _ => .empty⟩
      ((singleLock token).lockWithin 1 (some (.after 0))) _
      (.ok (), singleLocked token) (singleTable token) := performs_handle rfl
  exact ⟨_, locking.mono crowded_of_answers⟩

theorem life_singleLock : Life firstOrSecond ⟨0, fun _ => .empty⟩ (singleLock "first") [] := by
  apply Life.build
  · simp [firstOrSecond]
  · rintro n key record ⟨⟩

theorem renamed_release_leaves : ∃ trace after t,
    Life firstOrSecond (singleTable "second") (singleLocked "second") [] ∧
    Performs (crowded firstOrSecond) (singleTable "second") (singleLocked "second").release trace
      after t ∧
    ∀ n key record, t.read n key = some record → ¬ firstOrSecond record.owner := by
  have renamed := life_singleLock.withOwner ⟨"second", "second"⟩ (by simp [firstOrSecond])
  obtain ⟨trace, locking⟩ := performs_singleLock "second"
  have life : Life firstOrSecond (singleTable "second") (singleLocked "second") [] :=
    renamed.lock locking
  have releasing : Performs answers (singleTable "second") (singleLocked "second").release _ _ _ :=
    performs_handle rfl
  have released : Performs (crowded firstOrSecond) (singleTable "second")
      (singleLocked "second").release _ _ _ := releasing.mono crowded_of_answers
  refine ⟨_, _, _, life, released, ?_⟩
  intro n key record found ours
  exact absurd (life.release_leaves (.inl ⟨_, released⟩) found ours) (by simp)

/-- A lock that gets another owner while it is locked leaves the record of the owner before. -/
theorem renamed_while_locked_leaves_record : ∃ trace after t record,
    Life firstOrSecond (singleTable "first")
      ((singleLocked "first").withOwner ⟨"second", "second"⟩) [(0, ⟨"k"⟩, "first")] ∧
    Performs (crowded firstOrSecond) (singleTable "first")
      ((singleLocked "first").withOwner ⟨"second", "second"⟩).release trace after t ∧
    after.state = .released ∧ t.read 0 ⟨"k"⟩ = some record ∧ firstOrSecond record.owner := by
  obtain ⟨trace, locking⟩ := performs_singleLock "first"
  have life := (life_singleLock.lock locking).withOwner ⟨"second", "second"⟩
    (by simp [firstOrSecond])
  have releasing : Performs answers (singleTable "first")
      ((singleLocked "first").withOwner ⟨"second", "second"⟩).release _ _ _ := performs_handle rfl
  refine ⟨_, _, _, _, life, releasing.mono crowded_of_answers, rfl, rfl, ?_⟩
  simp [firstOrSecond]

end TransactionLock

end TransactionKit
