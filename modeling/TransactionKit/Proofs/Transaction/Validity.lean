import TransactionKit.Proofs.Transaction.Holding

/-!
The check of a lock, made while the clock stands still. A key is valid if it has a record of the
owner that is not stale. Looking at a key only sweeps away a stale record (`Sweeps`), which changes
the validity of no key, so both passes of the check find what the table had at the beginning. What
is released afterwards are the valid keys, and the records under them are the owner's whatever the
settings allow a release to remove: `isLocked_exact`.
-/

namespace TransactionKit

open Routine

namespace Tables

/-- Whether a key has a record of the owner that is not stale. -/
def valid (s : Tables) (backend : Backend) (token : String) (key : LockKey) : Bool :=
  (s.read backend.id key).any fun record =>
    record.owner == token && !record.isStale backend.config.maxLockAge s.time

theorem valid_eq_true_iff {s : Tables} {backend : Backend} {token : String} {key : LockKey} :
    s.valid backend token key = true ↔ ∃ record, s.read backend.id key = some record ∧
      record.owner = token ∧ record.isStale backend.config.maxLockAge s.time = false := by
  simp [valid, Option.any_eq_true]

/-- The clock stands still, and stale records of some keys are gone. -/
structure Sweeps (backend : Backend) (keys : List LockKey) (s t : Tables) : Prop where
  time : t.time = s.time
  changes : Changes noRecord (fun n key record => n = backend.id ∧ key ∈ keys ∧
    record.isStale backend.config.maxLockAge s.time = true) s t

variable {backend : Backend} {key : LockKey} {keys : List LockKey} {s t u : Tables}

theorem Sweeps.refl (s : Tables) : Sweeps backend keys s s :=
  ⟨rfl, .of_eq rfl⟩

theorem Sweeps.trans (first : Sweeps backend keys s u) (second : Sweeps backend keys u t) :
    Sweeps backend keys s t where
  time := second.time.trans first.time
  changes := by
    apply first.changes.trans
    rw [← first.time]
    exact second.changes

theorem Sweeps.mono {more : List LockKey} (sweeps : Sweeps backend keys s t)
    (subset : keys ⊆ more) : Sweeps backend more s t where
  time := sweeps.time
  changes := sweeps.changes.mono (fun _ _ _ _ => id)
    fun _ _ _ _ gone => ⟨gone.1, subset gone.2.1, gone.2.2⟩

/-- A record that is not stale survives. -/
theorem Sweeps.read_of_fresh (sweeps : Sweeps backend keys s t) {record : Record}
    (found : s.read backend.id key = some record)
    (fresh : record.isStale backend.config.maxLockAge s.time = false) :
    t.read backend.id key = some record := by
  rcases sweeps.changes.fate backend.id key record found with kept | ⟨-, -, stale⟩
  · exact kept
  · rw [fresh] at stale
    cases stale

/-- The validity of a key does not depend on stale records. -/
theorem Sweeps.valid_eq (sweeps : Sweeps backend keys s t) (token : String) (key : LockKey) :
    t.valid backend token key = s.valid backend token key := by
  rw [Bool.eq_iff_iff, valid_eq_true_iff, valid_eq_true_iff, sweeps.time]
  constructor
  · rintro ⟨record, found, own, fresh⟩
    exact ⟨record, sweeps.changes.read_of_read found, own, fresh⟩
  · rintro ⟨record, found, own, fresh⟩
    exact ⟨record, sweeps.read_of_fresh found fresh, own, fresh⟩

/-- No stale record is left under a key. -/
def Swept (backend : Backend) (key : LockKey) (s : Tables) : Prop :=
  ∀ record, s.read backend.id key = some record →
    record.isStale backend.config.maxLockAge s.time = false

theorem Sweeps.swept (sweeps : Sweeps backend keys s t) (swept : s.Swept backend key) :
    t.Swept backend key := by
  intro record found
  rw [sweeps.time]
  exact swept record (sweeps.changes.read_of_read found)

theorem swept_of_valid {token : String} (valid : s.valid backend token key = true) :
    s.Swept backend key := by
  obtain ⟨record, found, -, fresh⟩ := valid_eq_true_iff.mp valid
  intro other present
  cases found.symm.trans present
  exact fresh

/-- In swept tables a valid key is one that belongs to the owner. -/
theorem Swept.valid_of_held {token : String} (swept : s.Swept backend key)
    (held : s.Held backend.id key token) : s.valid backend token key = true := by
  obtain ⟨record, found, own⟩ := held
  exact valid_eq_true_iff.mpr ⟨record, found, own, swept record found⟩

/-! ## Looking at one key -/

section Calls

variable {α : Type}

theorem run_read_bind (backend : Backend) (key : LockKey)
    (f : Except Error (Option Record) → Routine α) (s : Tables) :
    (Routine.read backend key >>= f).run handle s =
      (f (.ok (s.read backend.id key))).run handle s := rfl

theorem run_now_bind (f : Int → Routine α) (s : Tables) :
    (Routine.now >>= f).run handle s = (f s.time).run handle s := rfl

theorem run_remove_bind (backend : Backend) (key : LockKey) (owner? : Option String)
    (f : Except Error Bool → Routine α) (s : Tables) :
    (Routine.remove backend key owner? >>= f).run handle s =
      (f (handle (.remove backend key owner?) s).1).run handle
        (handle (.remove backend key owner?) s).2 := rfl

end Calls

/-- An eviction sweeps its key, and changes nothing if there is nothing to sweep. -/
theorem run_evictStale (backend : Backend) (key : LockKey) (s : Tables) :
    ∃ evicted? t, (backend.evictStale key).run handle s = (some (.ok evicted?), t) ∧
      Sweeps backend [key] s t ∧ t.Swept backend key ∧ (s.Swept backend key → t = s) := by
  unfold Backend.evictStale
  rw [run_read_bind]
  cases found : s.read backend.id key with
  | none =>
    refine ⟨none, s, rfl, .refl s, ?_, fun _ => rfl⟩
    intro record present
    cases found.symm.trans present
  | some record =>
    dsimp only
    rw [run_now_bind]
    cases stale : record.isStale backend.config.maxLockAge s.time with
    | false =>
      refine ⟨none, s, rfl, .refl s, ?_, fun _ => rfl⟩
      intro other present
      cases found.symm.trans present
      exact stale
    | true =>
      have removing := answers_handle s (.remove backend key (some record.owner))
      obtain ⟨⟨removed, answered⟩, changes, left⟩ := changes_remove removing
      rw [if_pos rfl, run_remove_bind, answered]
      refine ⟨_, _, rfl, ⟨?_, changes.mono (fun _ _ _ _ => id) ?_⟩, ?_, ?_⟩
      · rfl
      · rintro n k r present ⟨rfl, rfl, -⟩
        cases found.symm.trans present
        exact ⟨rfl, List.mem_singleton_self _, stale⟩
      · intro other present
        cases found.symm.trans (changes.read_of_read present)
        exact absurd (beq_self_eq_true record.owner) (left record present)
      · intro swept
        rw [swept record found] at stale
        cases stale

/-- A check of an owner finds whether the key is valid. -/
theorem run_isHeldBy (backend : Backend) (key : LockKey) (owner : Owner) (s : Tables) :
    ∃ t, (backend.isHeldBy key owner).run handle s =
        (some (.ok (s.valid backend owner.token key)), t) ∧
      Sweeps backend [key] s t ∧ t.Swept backend key ∧ (s.Swept backend key → t = s) := by
  obtain ⟨evicted?, t, ran, sweeps, swept, unchanged⟩ := run_evictStale backend key s
  refine ⟨t, ?_, sweeps, swept, unchanged⟩
  have same : (t.read backend.id key).any (·.owner == owner.token) =
      s.valid backend owner.token key := by
    rw [← sweeps.valid_eq, valid]
    cases found : t.read backend.id key with
    | none => rfl
    | some record => simp [swept record found]
  simp only [Backend.isHeldBy, Backend.current, run_bind, ran]
  simp [Routine.read, ask, handle, Except.map, same]

end Tables

namespace TransactionLock

open Tables

/-! ## Looking at all keys -/

section Passes

variable (backend : Backend) (owner : Owner)

/-- The first pass finds whether a key is not valid. It changes nothing if all are. -/
theorem run_anyLost (keys : List LockKey) (s : Tables) :
    ∃ t, (anyLost backend owner keys).run handle s =
        (some (!keys.all (s.valid backend owner.token)), t) ∧
      Sweeps backend keys s t ∧ (keys.all (s.valid backend owner.token) = true → t = s) := by
  induction keys generalizing s with
  | nil => exact ⟨s, rfl, .refl s, fun _ => rfl⟩
  | cons key rest ih =>
    obtain ⟨u, ran, sweeps, -, unchanged⟩ := run_isHeldBy backend key owner s
    have wider : Sweeps backend (key :: rest) s u := sweeps.mono (by simp)
    cases valid : s.valid backend owner.token key with
    | false =>
      refine ⟨u, ?_, wider, by simp [valid]⟩
      simp [anyLost, run_bind, ran, valid]
    | true =>
      obtain ⟨t, ranRest, sweepsRest, unchangedRest⟩ := ih u
      have later : u.valid backend owner.token = s.valid backend owner.token :=
        funext (sweeps.valid_eq owner.token)
      rw [later] at ranRest unchangedRest
      refine ⟨t, ?_, wider.trans (sweepsRest.mono (by simp)), ?_⟩
      · simp [anyLost, run_bind, ran, valid, ranRest]
      · intro all
        simp only [List.all_cons, valid, Bool.true_and] at all
        rw [unchangedRest all, unchanged (swept_of_valid valid)]

/-- The second pass keeps the valid keys, and leaves no stale record under any key. -/
theorem run_notLost (keys : List LockKey) (s : Tables) :
    ∃ t, (notLost backend owner keys).run handle s =
        (some (keys.filter (s.valid backend owner.token)), t) ∧
      Sweeps backend keys s t ∧ ∀ key ∈ keys, t.Swept backend key := by
  induction keys generalizing s with
  | nil => exact ⟨s, rfl, .refl s, by simp⟩
  | cons key rest ih =>
    obtain ⟨u, ran, sweeps, swept, -⟩ := run_isHeldBy backend key owner s
    obtain ⟨t, ranRest, sweepsRest, sweptRest⟩ := ih u
    have later : u.valid backend owner.token = s.valid backend owner.token :=
      funext (sweeps.valid_eq owner.token)
    rw [later] at ranRest
    have both : Sweeps backend (key :: rest) s t :=
      (sweeps.mono (by simp)).trans (sweepsRest.mono (by simp))
    refine ⟨t, ?_, both, List.forall_mem_cons.mpr ⟨sweepsRest.swept swept, sweptRest⟩⟩
    cases valid : s.valid backend owner.token key with
    | false => simp [notLost, run_bind, ran, valid, ranRest]
    | true => simp [notLost, run_bind, ran, valid, ranRest]

end Passes

/-! ## Giving back what is left -/

theorem ends_release (backend : Backend) (key : LockKey) (owner : Owner) :
    (backend.release key owner).Ends := by
  unfold Backend.release
  apply Ends.ask_bind
  intro answer
  match answer with
  | .error e | .ok none => trivial
  | .ok (some record) =>
    dsimp only
    split
    · exact fun _ => trivial
    · split
      · exact fun _ => trivial
      · trivial

theorem ends_releaseKeys (backend : Backend) (owner : Owner) (keys : List LockKey) :
    (releaseKeys backend owner keys).Ends := by
  induction keys with
  | nil => trivial
  | cons key rest ih => exact (ends_release backend key owner).bind fun _ => ih

/-- Valid keys are given back without a loss to other owners. -/
theorem run_releaseKeys (backend : Backend) (owner : Owner) {keys : List LockKey} {s : Tables}
    (valid : ∀ key ∈ keys, s.valid backend owner.token key = true) :
    ∃ t, (releaseKeys backend owner keys).run handle s = (some (), t) ∧
      Changes noRecord (fun n key record => n = backend.id ∧ key ∈ keys ∧
        record.owner = owner.token) s t ∧
      ∀ key ∈ keys, ¬ t.Held backend.id key owner.token := by
  obtain ⟨_, t, ran⟩ := (ends_releaseKeys backend owner keys).run handle s
  obtain ⟨changes, gone⟩ := performs_releaseKeys (performs_handle ran)
  refine ⟨t, ran, changes.mono (fun _ _ _ _ => id) ?_, gone⟩
  rintro n key record found ⟨rfl, member⟩
  obtain ⟨other, present, own, -⟩ := valid_eq_true_iff.mp (valid key member)
  cases found.symm.trans present
  exact ⟨rfl, member, own⟩

/-- A locked lock finishes when the keys that it still has are given back. -/
theorem Standing.run_release_left {this : TransactionLock} (standing : this.Standing)
    (locked : this.state = .locked) {backend : Backend} (own : this.backend? = some backend)
    {left : List LockKey} {s t : Tables}
    (given : (releaseKeys backend this.owner left.reverse).run handle s = (some (), t)) :
    (release { this with acquired := left }).run handle s = (some this.finished, t) := by
  have unreleased : (TransactionLock.mk this.objects this.backend? this.owner this.state
      this.relaxed left this.nested).state ≠ .released := by simp [locked]
  have backed : (TransactionLock.mk this.objects this.backend? this.owner this.state
      this.relaxed left this.nested).backend? ≠ none := by simp [own]
  rw [release_eq_of_admitted unreleased backed fun _ => standing.admitted_of_mem, run_bind,
    giveBack]
  simp only [own, given, run_done]
  rfl

/-- With the clock standing still, the check of a lock finds whether every acquired key has a record
of its owner that is not stale. If so, nothing changes. Otherwise the lock is finished and its owner
has none of the acquired keys any more, and the only other records that are gone are stale ones
under these keys, whatever the settings allow a release to remove. -/
theorem Standing.isLocked_exact {this : TransactionLock} (standing : this.Standing)
    (locked : this.state = .locked) {backend : Backend} (own : this.backend? = some backend)
    (s : Tables) :
    ∃ valid after t, this.isLocked.run handle s = (some (valid, after), t) ∧
      (valid = true ↔ ∀ key ∈ this.acquired, ∃ record, s.read backend.id key = some record ∧
        record.owner = this.owner.token ∧
          record.isStale backend.config.maxLockAge s.time = false) ∧
      (valid = true → after = this ∧ t = s) ∧
      (valid = false → after = this.finished ∧
        (∀ key ∈ this.acquired, ¬ t.Held backend.id key this.owner.token) ∧
        Changes noRecord (fun n key record => n = backend.id ∧ key ∈ this.acquired ∧
          (record.owner = this.owner.token ∨
            record.isStale backend.config.maxLockAge s.time = true)) s t) := by
  obtain ⟨u, looked, sweeps, unchanged⟩ := run_anyLost backend this.owner this.acquired s
  cases all : this.acquired.all (s.valid backend this.owner.token) with
  | true =>
    refine ⟨true, this, u, ?_, ?_, fun _ => ⟨rfl, unchanged all⟩, by simp⟩
    · simp [isLocked, locked, own, run_bind, looked, all]
    · simpa [List.all_eq_true, valid_eq_true_iff] using all
  | false =>
    obtain ⟨v, kept, sweepsLeft, swept⟩ := run_notLost backend this.owner this.acquired u
    have checked : Sweeps backend this.acquired s v := sweeps.trans sweepsLeft
    have same : u.valid backend this.owner.token = s.valid backend this.owner.token :=
      funext (sweeps.valid_eq this.owner.token)
    rw [same] at kept
    have left (key : LockKey) :
        key ∈ (this.acquired.filter (s.valid backend this.owner.token)).reverse ↔
          key ∈ this.acquired ∧ v.valid backend this.owner.token key = true := by
      rw [List.mem_reverse, List.mem_filter, checked.valid_eq]
    obtain ⟨t, given, changes, gone⟩ := run_releaseKeys backend this.owner (s := v)
      fun key member => ((left key).mp member).2
    have released := standing.run_release_left locked own given
    refine ⟨false, this.finished, t, ?_, ?_, by simp, fun _ => ⟨rfl, ?_, ?_⟩⟩
    · simp only [locked, own] at released
      simp [isLocked, locked, own, run_bind, looked, all, kept, released]
    · simpa [valid_eq_true_iff] using all
    · intro key member held
      have valid := (swept key member).valid_of_held (changes.held_of_held held)
      exact gone key ((left key).mpr ⟨member, valid⟩) held
    · apply (checked.changes.mono (fun _ _ _ _ => id) ?_).trans
        (changes.mono (fun _ _ _ _ => id) ?_)
      · rintro n key record - ⟨rfl, member, stale⟩
        exact ⟨rfl, member, .inr stale⟩
      · rintro n key record - ⟨rfl, member, mine⟩
        exact ⟨rfl, ((left key).mp member).1, .inl mine⟩

/-- A lock on some keys of a table whose records any owner may release after a millisecond. -/
def lenientLock (keys : List LockKey) : TransactionLock where
  objects := SortedMap.ofList (keys.map fun key => (key, none))
  backend? := some ⟨0, { maxLockAgeMs := 1, ignoreLockOwner := true }⟩
  owner := ⟨"me", "first"⟩
  state := .locked
  relaxed := false
  acquired := (SortedMap.ofList (keys.map fun key => (key, (none : Option Entity)))).keys
  nested := []

theorem standing_lenientLock (keys : List LockKey) : (lenientLock keys).Standing :=
  .locked _ _ _ _ [] (by simp) (by simp)

/-- The first key is held, the second one has grown stale, and the last one was taken over. -/
def contestedTables : Tables where
  time := 2000000
  table := Function.update (fun _ => .empty) 0 ⟨[⟨⟨"a"⟩, "me", "first", .ofNanos 1500000⟩,
    ⟨⟨"b"⟩, "me", "first", .ofNanos 0⟩, ⟨⟨"d"⟩, "you", "second", .ofNanos 1500000⟩]⟩

theorem contested_isLocked_exact :
    (lenientLock [⟨"a"⟩]).isLocked.run handle contestedTables =
        (some (true, lenientLock [⟨"a"⟩]), contestedTables) ∧
      ∃ t, (lenientLock [⟨"a"⟩, ⟨"b"⟩, ⟨"c"⟩, ⟨"d"⟩]).isLocked.run handle contestedTables =
          (some (false, finished (lenientLock [])), t) ∧
        t.read 0 ⟨"d"⟩ = some ⟨⟨"d"⟩, "you", "second", .ofNanos 1500000⟩ ∧
        ∀ key ∈ [⟨"a"⟩, ⟨"b"⟩, ⟨"c"⟩, ⟨"d"⟩], ¬ t.Held 0 key "me" := by
  constructor
  · obtain ⟨valid, after, t, ran, exact, kept, -⟩ :=
      (standing_lenientLock [⟨"a"⟩]).isLocked_exact rfl rfl contestedTables
    have holds : valid = true := by
      apply exact.mpr
      intro key member
      cases List.mem_singleton.mp member
      exact ⟨_, rfl, rfl, rfl⟩
    obtain ⟨rfl, rfl⟩ := kept holds
    rw [ran, holds]
  · obtain ⟨valid, after, t, ran, exact, -, lost⟩ :=
      (standing_lenientLock [⟨"a"⟩, ⟨"b"⟩, ⟨"c"⟩, ⟨"d"⟩]).isLocked_exact rfl rfl contestedTables
    cases valid with
    | true =>
      obtain ⟨record, found, -⟩ := exact.mp rfl ⟨"c"⟩ (by decide)
      cases found
    | false =>
      obtain ⟨rfl, none, changes⟩ := lost rfl
      refine ⟨t, ran, ?_, none⟩
      rcases changes.fate 0 ⟨"d"⟩ ⟨⟨"d"⟩, "you", "second", .ofNanos 1500000⟩ rfl with
        kept | ⟨-, -, gone⟩
      · exact kept
      · rcases gone with own | stale
        · exact absurd own (by decide)
        · cases stale

end TransactionLock

end TransactionKit
