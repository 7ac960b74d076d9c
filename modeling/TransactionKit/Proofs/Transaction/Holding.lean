import TransactionKit.Proofs.Lock.Tables
import TransactionKit.Proofs.Transaction.Standing

/-!
What transaction locks do to the records, where no access to a table fails. A lock holds its
acquired keys in the table of its backend (`Holds`). Whatever is done with a lock, the records of
its owner that are there afterwards are under keys that it holds then (`Manages.accounts`), and if
there was one under each key that it held, there is one under each key that it holds (`intact`). A
record of another owner is only removed if it was stale, or if it stands in the place of one that
the lock has lost before.
-/

namespace TransactionKit

open Routine Tables

namespace TransactionLock

/-- Whether a key was acquired in the table of the backend. -/
def Holds (lock : TransactionLock) (n : Nat) (key : LockKey) : Prop :=
  ∃ backend, lock.backend? = some backend ∧ n = backend.id ∧ key ∈ lock.acquired

/-- Every record of the owner is under a key that the lock holds. -/
def AccountsFor (lock : TransactionLock) (s : Tables) : Prop :=
  ∀ n key record, s.read n key = some record → record.owner = lock.owner.token → lock.Holds n key

/-- Every key that the lock holds belongs to its owner. -/
def Intact (lock : TransactionLock) (s : Tables) : Prop :=
  ∀ n key, lock.Holds n key → s.Held n key lock.owner.token

/-- A record of a table was stale at a moment of a trace, by the settings of the lock. -/
def Outlives (lock : TransactionLock) (trace : List (Moment Tables)) (n : Nat) (key : LockKey)
    (record : Record) : Prop :=
  ∃ backend, lock.backend? = some backend ∧ AgedIn backend trace n key record

theorem not_holds_of_vacant {lock : TransactionLock} {n : Nat} {key : LockKey}
    (vacant : lock.acquired = []) : ¬ lock.Holds n key := by
  rintro ⟨backend, -, -, member⟩
  rw [vacant] at member
  cases member

theorem not_holds_finished {lock : TransactionLock} {n : Nat} {key : LockKey} :
    ¬ lock.finished.Holds n key :=
  not_holds_of_vacant rfl

/-- What an operation on a lock does to the records. -/
structure Manages (before after : TransactionLock) (s t : Tables) (trace : List (Moment Tables)) :
    Prop where
  origin : ∀ n key record, t.read n key = some record →
    s.read n key = some record ∨ record.owner = before.owner.token
  accounts : before.AccountsFor s → after.AccountsFor t
  intact : before.Intact s → after.Intact t
  spares : before.Intact s → ∀ n key record, s.read n key = some record →
    record.owner ≠ before.owner.token →
      t.read n key = some record ∨ before.Outlives trace n key record

variable {s t u : Tables} {trace : List (Moment Tables)} {before after : TransactionLock}

/-- Nothing happens to the records, and the lock holds what it held. -/
theorem Manages.of_eq (same : t.read = s.read) (owner : after.owner = before.owner)
    (holds : ∀ n key, after.Holds n key ↔ before.Holds n key) :
    before.Manages after s t trace where
  origin n key record found := .inl (by rwa [← same])
  accounts accounts n key record found own := by
    rw [holds]
    exact accounts n key record (by rwa [← same]) (by rwa [← owner])
  intact intact n key held := by
    rw [Held, same, owner]
    exact intact n key ((holds n key).mp held)
  spares _ n key record found _ := .inl (by rwa [same])

theorem Manages.refl (lock : TransactionLock) (same : t.read = s.read) :
    lock.Manages lock s t trace :=
  .of_eq same rfl fun _ _ => Iff.rfl

/-- A record under one of some keys was found stale. -/
def AgedAmong (backend : Backend) (keys : List LockKey) (trace : List (Moment Tables)) (n : Nat)
    (key : LockKey) (record : Record) : Prop :=
  key ∈ keys ∧ AgedIn backend trace n key record

/-- What is removed under one key and then under others is removed under one of all. -/
theorem changes_cons {gained : Nat → LockKey → Record → Prop} {backend : Backend} {key : LockKey}
    {rest : List LockKey} {first second : List (Moment Tables)}
    (one : Changes gained (AgedAt backend key first) s u)
    (others : Changes gained (AgedAmong backend rest second) u t) :
    Changes gained (AgedAmong backend (key :: rest) (first ++ second)) s t := by
  refine (one.mono (fun _ _ _ _ => id) ?_).trans (others.mono (fun _ _ _ _ => id) ?_)
  · rintro n k record - ⟨rfl, aged⟩
    exact ⟨List.mem_cons_self, aged.append_left⟩
  · rintro n k record - ⟨member, aged⟩
    exact ⟨List.mem_cons_of_mem _ member, aged.append_right⟩

/-! ## Release -/

/-- What the release of a key in the name of an owner takes. -/
def Releasable (backend : Backend) (owner : Owner) (keys : List LockKey) (n : Nat) (key : LockKey)
    (record : Record) : Prop :=
  n = backend.id ∧ key ∈ keys ∧
    (record.owner = owner.token ∨ backend.config.ignoreLockOwner = true)

theorem withdrawn_release {backend : Backend} {key : LockKey} {owner : Owner}
    {answer : Except Error Bool}
    (performed : Performs answers s (backend.release key owner) trace answer t) :
    Withdrawn (Releasable backend owner [key]) s t := by
  unfold Backend.release at performed
  obtain ⟨found?, u, rest, rfl, ⟨rfl, same⟩, performed⟩ := performs_ask_bind_iff.mp performed
  have sameRead := read_eq_of_table same
  have unchanged : Withdrawn (fun _ _ _ => False) s u := .of_eq sameRead fun _ _ _ _ => id
  cases found : s.read backend.id key with
  | none =>
    simp only [found] at performed
    obtain ⟨rfl, rfl, rfl⟩ := performs_done_iff.mp performed
    refine unchanged.mono fun n k record present => iff_of_false ?_ id
    rintro ⟨rfl, member, -⟩
    rw [List.mem_singleton.mp member, found] at present
    cases present
  | some record =>
    simp only [found] at performed
    split at performed
    · rename_i mine
      obtain ⟨_, _, _, rfl, removing, ended⟩ := performs_call_iff.mp performed
      obtain ⟨rfl, rfl, rfl⟩ := performs_done_iff.mp ended
      refine (unchanged.trans (withdrawn_remove removing)).mono fun n k r present => ?_
      simp only [Releasable, List.mem_singleton, false_or]
      refine and_congr_right fun sameTable => and_congr_right fun sameKey => ?_
      -- only the record that was read can be under the key
      rw [sameTable, sameKey] at present
      cases found.symm.trans present
      simp [mine]
    · rename_i foreign
      split at performed
      · rename_i ignored
        obtain ⟨_, _, _, rfl, removing, ended⟩ := performs_call_iff.mp performed
        obtain ⟨rfl, rfl, rfl⟩ := performs_done_iff.mp ended
        refine (unchanged.trans (withdrawn_remove removing)).mono fun n k r present => ?_
        simp [Releasable, ignored]
      · rename_i respected
        obtain ⟨rfl, rfl, rfl⟩ := performs_done_iff.mp performed
        refine unchanged.mono fun n k r present => iff_of_false ?_ id
        rintro ⟨rfl, member, owned⟩
        rw [List.mem_singleton.mp member, found] at present
        cases present
        exact owned.elim foreign respected

theorem withdrawn_releaseKeys {backend : Backend} {owner : Owner} {keys : List LockKey}
    (performed : Performs answers s (releaseKeys backend owner keys) trace () t) :
    Withdrawn (Releasable backend owner keys) s t := by
  induction keys generalizing s trace with
  | nil =>
    obtain ⟨rfl, -, rfl⟩ := performs_done_iff.mp performed
    exact .of_eq rfl fun n key record _ taken => List.not_mem_nil taken.2.1
  | cons key rest ih =>
    obtain ⟨removed, u, first, second, rfl, releasing, performed⟩ := performs_bind_iff.mp performed
    refine ((withdrawn_release releasing).trans (ih performed)).mono fun n k record _ => ?_
    simp only [Releasable, List.mem_cons, List.not_mem_nil, or_false]
    rw [or_and_right, and_or_left]

theorem performs_releaseKeys {backend : Backend} {owner : Owner} {keys : List LockKey}
    (performed : Performs answers s (releaseKeys backend owner keys) trace () t) :
    Changes noRecord (fun n key _ => n = backend.id ∧ key ∈ keys) s t ∧
      ∀ key ∈ keys, ¬ t.Held backend.id key owner.token := by
  have withdrawn := withdrawn_releaseKeys performed
  constructor
  · exact withdrawn.changes.mono (fun _ _ _ _ => id) fun n key record _ taken => ⟨taken.1, taken.2.1⟩
  · rintro key member ⟨record, found, own⟩
    exact ((withdrawn _ key record).mp found).2 ⟨rfl, member, .inl own⟩

/-- Nothing of the owner is left where its keys were given back, and nothing else is gone where all
of them belonged to it. -/
theorem manages_of_releaseKeys {backend : Backend} {keys : List LockKey}
    {first second : List (Moment Tables)} (backend? : before.backend? = some backend)
    (checked : Changes noRecord (AgedIn backend first) s u)
    (left : before.AccountsFor s → ∀ n key, u.Held n key before.owner.token →
      n = backend.id ∧ key ∈ keys)
    (held : before.Intact s → ∀ key ∈ keys, u.Held backend.id key before.owner.token)
    (performed : Performs answers u (releaseKeys backend before.owner keys) second () t) :
    before.Manages before.finished s t (first ++ second) := by
  obtain ⟨changes, gone⟩ := performs_releaseKeys performed
  refine ⟨fun n key record found => ?_, fun accounts n key record found own => ?_,
    fun _ n key holds => absurd holds not_holds_finished, fun intact n key record found foreign => ?_⟩
  · exact .inl (checked.read_of_read (changes.read_of_read found))
  · have present := changes.read_of_read found
    obtain ⟨rfl, member⟩ := left accounts n key ⟨record, present, own⟩
    exact absurd ⟨record, found, own⟩ (gone key member)
  · rcases checked.fate n key record found with present | aged
    · rcases changes.fate n key record present with found | ⟨rfl, member⟩
      · exact .inl found
      · obtain ⟨other, present', own⟩ := held intact key member
        cases present.symm.trans present'
        exact absurd own foreign
    · exact .inr ⟨backend, backend?, aged.append_left⟩

theorem performs_giveBack (performed : Performs answers s before.giveBack trace () t) :
    before.Manages before.finished s t trace := by
  unfold giveBack at performed
  cases backend? : before.backend? with
  | none =>
      simp only [backend?] at performed
      obtain ⟨rfl, -, rfl⟩ := performs_done_iff.mp performed
      refine .of_eq rfl rfl fun n key => ⟨fun holds => absurd holds not_holds_finished, ?_⟩
      rintro ⟨backend, own, -⟩
      rw [backend?] at own
      cases own
  | some backend =>
      simp only [backend?] at performed
      have unchanged : Changes noRecord (AgedIn backend []) s s := .of_eq rfl
      refine manages_of_releaseKeys backend? unchanged ?_ ?_ performed
      · rintro accounts n key ⟨record, found, own⟩
        obtain ⟨other, same, rfl, member⟩ := accounts n key record found own
        rw [backend?] at same
        cases same
        exact ⟨rfl, List.mem_reverse.mpr member⟩
      · intro intact key member
        exact intact _ key ⟨backend, backend?, rfl, List.mem_reverse.mp member⟩

/-- A release gives back what the lock held. -/
theorem Standing.performs_release (standing : before.Standing)
    (performed : Performs answers s before.release trace after t) :
    after = before.finished ∧ before.Manages after s t trace := by
  rw [standing.release_eq] at performed
  obtain ⟨_, rfl, giving⟩ := performs_bind_done_iff.mp performed
  exact ⟨rfl, performs_giveBack giving⟩

theorem Standing.performs_discard (standing : before.Standing)
    (performed : Performs answers s before.discard trace () t) :
    before.Manages before.finished s t trace := by
  obtain ⟨left, -, releasing⟩ := performs_bind_done_iff.mp performed
  obtain ⟨rfl, manages⟩ := standing.performs_release releasing
  exact manages

/-! ## Acquisition -/

/-- What the attempts to acquire a key obey holds of repeated acquisitions too. -/
theorem law_of_acquireKey {environment : Environment Tables} {backend : Backend} {key : LockKey}
    {owner : Owner} {vain : List (Moment Tables) → Tables → Tables → Prop}
    {law : Prop → List (Moment Tables) → Tables → Tables → Prop}
    (laws : AcquisitionLaw environment backend key owner vain law) {attempts rounds : Nat}
    {deadline : Deadline} {got : Bool}
    (performed : Performs environment s (acquireKey attempts backend owner deadline key rounds)
      trace got t) : law (got = true) trace s t := by
  induction rounds generalizing s trace with
  | zero => exact absurd performed not_performs_starved
  | succ rounds ih =>
    obtain ⟨timeout, u, first, second, rfl, reading, performed⟩ := performs_bind_iff.mp performed
    apply laws.after (laws.spares reading (deadline.only_remaining trivial))
    obtain ⟨answer, v, first, second, rfl, locking, performed⟩ := performs_bind_iff.mp performed
    have locked := laws.lock locking
    cases answer with
    | ok _ =>
      obtain ⟨rfl, rfl, rfl⟩ := performs_done_iff.mp performed
      simpa using locked
    | error e =>
      apply laws.after ((laws.failed (by simp)).mp locked)
      apply laws.retry performed
      · rintro rfl
        simp
      · exact fun w rest => ih

/-- What the acquisition of several keys has done when it ends, with all of them or before. -/
structure Gathers (backend : Backend) (owner : Owner) (acquired keys got : List LockKey)
    (trace : List (Moment Tables)) (s t : Tables) : Prop where
  kept : ∀ key ∈ acquired, key ∈ got
  changes : Changes (fun n key record => n = backend.id ∧ key ∈ got ∧ record.owner = owner.token)
    (AgedAmong backend keys trace) s t
  held : (acquired ++ keys).Nodup → (∀ key ∈ acquired, s.Held backend.id key owner.token) →
    ∀ key ∈ got, t.Held backend.id key owner.token

theorem performs_acquireKeys {rounds : Nat} {backend : Backend} {owner : Owner}
    {deadline : Deadline} {acquired keys : List LockKey} {complete : Bool} {got : List LockKey}
    (performed : Performs answers s (acquireKeys rounds backend owner deadline acquired keys) trace
      (complete, got) t) : Gathers backend owner acquired keys got trace s t := by
  induction keys generalizing s trace acquired with
  | nil =>
      obtain ⟨rfl, same, rfl⟩ := performs_done_iff.mp performed
      cases same
      exact ⟨fun _ => id, .of_eq rfl, fun _ => id⟩
  | cons key rest hypothesis =>
      obtain ⟨one, u, first, second, rfl, acquiring, performed⟩ := performs_bind_iff.mp performed
      have acquires := law_of_acquireKey (acquisitionLaw_answers ..) acquiring
      -- the keys that were acquired before are not looked at again
      have still (distinct : (acquired ++ key :: rest).Nodup)
          (held : ∀ other ∈ acquired, s.Held backend.id other owner.token) :
          ∀ other ∈ acquired, u.Held backend.id other owner.token := by
        intro other member
        obtain ⟨record, found, own⟩ := held other member
        rcases acquires.changes.fate _ other record found with found | ⟨rfl, -⟩
        · exact ⟨record, found, own⟩
        · exact absurd rfl ((List.nodup_append.mp distinct).2.2 other member other List.mem_cons_self)
      cases one with
      | true =>
          obtain ⟨kept, changes, held⟩ := hypothesis performed
          refine ⟨fun other member => kept other (List.mem_append_left _ member), ?_, ?_⟩
          · refine changes_cons (acquires.changes.mono ?_ fun _ _ _ _ => id) changes
            rintro n k r - ⟨-, rfl, rfl, own⟩
            exact ⟨rfl, kept k (List.mem_append_right _ List.mem_cons_self), own⟩
          · intro distinct before
            refine held (by simpa using distinct) fun other member => ?_
            rcases List.mem_append.mp member with old | new
            · exact still distinct before other old
            · rw [List.mem_singleton.mp new]
              exact acquires.held rfl
      | false =>
          obtain ⟨rfl, same, rfl⟩ := performs_done_iff.mp performed
          cases same
          refine ⟨fun _ => id, changes_cons (acquires.changes.mono ?_ fun _ _ _ _ => id) ?_, still⟩
          · exact fun _ _ _ _ gained => absurd gained.1 (by simp)
          · exact .of_eq rfl

theorem nodup_keys (objects : SortedMap LockKey (Option Entity)) : objects.keys.Nodup := by
  refine objects.ascending_keys.imp ?_
  rintro key _ before rfl
  exact String.lt_irrefl key.text before

/-- A lock that has acquired nothing was about to acquire its keys, and those that are listed were
acquired. -/
structure Obtained (created : TransactionLock) (backend : Backend) (got : List LockKey)
    (trace : List (Moment Tables)) (s t : Tables) : Prop where
  own : created.backend? = some backend
  vacant : created.acquired = []
  changes : Changes
    (fun n key record => n = backend.id ∧ key ∈ got ∧ record.owner = created.owner.token)
    (AgedIn backend trace) s t
  held : ∀ key ∈ got, t.Held backend.id key created.owner.token

/-- Before the acquisition no record belonged to the owner. -/
theorem Obtained.mem_got {backend : Backend} {got : List LockKey}
    (obtained : before.Obtained backend got trace s t) (accounts : before.AccountsFor s) {n : Nat}
    {key : LockKey} {record : Record} (found : t.read n key = some record)
    (mine : record.owner = before.owner.token) : n = backend.id ∧ key ∈ got := by
  rcases obtained.changes.origin n key record found with old | ⟨rfl, member, -⟩
  · exact absurd (accounts n key record old mine) (not_holds_of_vacant obtained.vacant)
  · exact ⟨rfl, member⟩

/-- All keys were acquired. -/
theorem Obtained.manages_locked {backend : Backend}
    (obtained : before.Obtained backend before.keys trace s t) :
    before.Manages { before with state := .locked, acquired := before.keys } s t trace where
  origin n key record found :=
    (obtained.changes.origin n key record found).imp_right fun new => new.2.2
  accounts accounts n key record found mine := by
    obtain ⟨rfl, member⟩ := obtained.mem_got accounts found mine
    exact ⟨backend, obtained.own, rfl, member⟩
  intact _ n key holds := by
    obtain ⟨other, same, rfl, member⟩ := holds
    cases obtained.own.symm.trans same
    exact obtained.held key member
  spares _ n key record found _ :=
    (obtained.changes.fate n key record found).imp_right fun aged => ⟨backend, obtained.own, aged⟩

/-- Some keys were acquired, and they are given back. -/
theorem Obtained.manages_givenBack {backend : Backend} {got : List LockKey}
    {second : List (Moment Tables)} (obtained : before.Obtained backend got trace s u)
    (performed : Performs answers u (releaseKeys backend before.owner got.reverse) second () t) :
    before.Manages before s t (trace ++ second) := by
  obtain ⟨gives, gone⟩ := performs_releaseKeys performed
  constructor
  · intro n key record found
    have found := gives.read_of_read found
    exact (obtained.changes.origin n key record found).imp_right fun new => new.2.2
  · intro accounts n key record found mine
    obtain ⟨rfl, member⟩ := obtained.mem_got accounts (gives.read_of_read found) mine
    exact absurd ⟨record, found, mine⟩ (gone key (List.mem_reverse.mpr member))
  · intro _ n key holds
    exact absurd holds (not_holds_of_vacant obtained.vacant)
  · intro _ n key record found foreign
    rcases obtained.changes.fate n key record found with kept | aged
    · rcases gives.fate n key record kept with kept | ⟨rfl, member⟩
      · exact .inl kept
      · obtain ⟨other, present, mine⟩ := obtained.held key (List.mem_reverse.mp member)
        cases kept.symm.trans present
        exact absurd mine foreign
    · exact .inr ⟨backend, obtained.own, aged.append_left⟩

/-- An acquisition holds every key in the end, or none. -/
theorem Standing.performs_lock {rounds : Nat} {timeout : Timeout} {answer : Except Error Unit}
    (standing : before.Standing)
    (performed : Performs answers s (before.lock rounds timeout) trace (answer, after) t) :
    before.Manages after s t trace := by
  cases standing with
  | locked | released =>
      obtain ⟨rfl, same, rfl⟩ := performs_done_iff.mp performed
      cases same
      exact .refl _ rfl
  | created objects backend owner relaxed =>
      obtain ⟨deadline, u, first, second, rfl, starting, performed⟩ :=
        performs_bind_iff.mp performed
      have unchanged := read_eq_of_only (Deadline.only_after trivial timeout) starting
      obtain ⟨⟨complete, got⟩, v, second, third, rfl, gathering, performed⟩ :=
        performs_bind_iff.mp performed
      have all := gathering.returned (returns_acquireKeys _)
      obtain ⟨-, changes, held⟩ := performs_acquireKeys gathering
      have obtained : Obtained ⟨objects, some backend, owner, .created, relaxed, [], []⟩ backend got
          (first ++ second) s v := by
        refine ⟨rfl, rfl, ?_, held (nodup_keys objects) ?_⟩
        · refine (Changes.of_eq unchanged).trans (changes.mono (fun _ _ _ _ => id) ?_)
          exact fun _ _ _ _ lost => lost.2.append_right
        · simp
      rw [← List.append_assoc]
      cases complete with
      | true =>
          obtain rfl : got = objects.keys := all rfl
          obtain ⟨rfl, same, rfl⟩ := performs_done_iff.mp performed
          cases same
          rw [List.append_nil]
          exact obtained.manages_locked
      | false =>
          obtain ⟨_, same, releasing⟩ := performs_bind_done_iff.mp performed
          cases same
          exact obtained.manages_givenBack releasing

theorem Standing.performs_lockWithin {rounds : Nat} {timeout? : Option Timeout}
    {answer : Except Error Unit} (standing : before.Standing)
    (performed : Performs answers s (before.lockWithin rounds timeout?) trace (answer, after) t) :
    before.Manages after s t trace := by
  cases timeout? with
  | some timeout => exact standing.performs_lock performed
  | none =>
      simp only [lockWithin, lockDefault] at performed
      split at performed
      · exact standing.performs_lock performed
      · obtain ⟨rfl, same, rfl⟩ := performs_done_iff.mp performed
        cases same
        exact .refl _ rfl

/-! ## Validity -/

section Validity

variable {backend : Backend} {owner : Owner} {keys : List LockKey}

/-- A check that finds no key lost has found a fresh record of the owner under each of them. -/
theorem performs_anyLost {lost : Bool}
    (performed : Performs answers s (anyLost backend owner keys) trace lost t) :
    Changes noRecord (AgedAmong backend keys trace) s t ∧
      (lost = false → ∀ key ∈ keys, ∃ record, t.read backend.id key = some record ∧
        record.owner = owner.token ∧ FreshIn backend trace key record) := by
  induction keys generalizing s trace with
  | nil =>
      obtain ⟨rfl, rfl, rfl⟩ := performs_done_iff.mp performed
      exact ⟨.of_eq rfl, by simp⟩
  | cons key rest hypothesis =>
      obtain ⟨answer, u, first, second, rfl, checking, performed⟩ := performs_bind_iff.mp performed
      obtain ⟨⟨held, rfl, isHeld⟩, sweeps, fresh⟩ := performs_isHeldBy checking
      cases held with
      | false =>
          obtain ⟨rfl, rfl, rfl⟩ := performs_done_iff.mp performed
          exact ⟨changes_cons sweeps (.of_eq rfl), by simp⟩
      | true =>
          obtain ⟨changes, found⟩ := hypothesis performed
          refine ⟨changes_cons sweeps changes, fun none other member => ?_⟩
          by_cases later : other ∈ rest
          · obtain ⟨record, present, own, fresh⟩ := found none other later
            exact ⟨record, present, own, fresh.append_right⟩
          · obtain rfl : other = key := (List.mem_cons.mp member).resolve_right later
            obtain ⟨record, present, own⟩ := isHeld.mp rfl
            rcases changes.fate _ other record present with kept | ⟨again, -⟩
            · exact ⟨record, kept, own, (fresh record present).append_left⟩
            · exact absurd again later

/-- The keys that are not known to be lost are those that belong to the owner. -/
theorem performs_notLost {left : List LockKey} (distinct : keys.Nodup)
    (performed : Performs answers s (notLost backend owner keys) trace left t) :
    Changes noRecord (AgedAmong backend keys trace) s t ∧
      ∀ key, key ∈ left ↔ key ∈ keys ∧ t.Held backend.id key owner.token := by
  induction keys generalizing s trace left with
  | nil =>
      obtain ⟨rfl, rfl, rfl⟩ := performs_done_iff.mp performed
      exact ⟨.of_eq rfl, by simp⟩
  | cons key rest hypothesis =>
      obtain ⟨answer, u, first, second, rfl, checking, performed⟩ := performs_bind_iff.mp performed
      obtain ⟨⟨held, rfl, isHeld⟩, sweeps, -⟩ := performs_isHeldBy checking
      obtain ⟨new, distinct⟩ := List.nodup_cons.mp distinct
      -- the checks of the other keys leave this one as it was found
      have still (changes : Changes noRecord (AgedAmong backend rest second) u t) :
          held = true ↔ t.Held backend.id key owner.token := by
        rw [isHeld]
        refine ⟨fun ⟨record, present, own⟩ => ?_, changes.held_of_held⟩
        rcases changes.fate _ key record present with kept | ⟨again, -⟩
        · exact ⟨record, kept, own⟩
        · exact absurd again new
      cases held with
      | false =>
          obtain ⟨changes, remaining⟩ := hypothesis distinct performed
          refine ⟨changes_cons sweeps changes, fun other => ?_⟩
          rw [remaining, List.mem_cons]
          refine ⟨fun ⟨member, mine⟩ => ⟨.inr member, mine⟩, fun ⟨member, mine⟩ => ⟨?_, mine⟩⟩
          refine member.resolve_left ?_
          rintro rfl
          cases (still changes).mpr mine
      | true =>
          obtain ⟨others, rfl, filtering⟩ := performs_bind_done_iff.mp performed
          obtain ⟨changes, remaining⟩ := hypothesis distinct filtering
          refine ⟨changes_cons sweeps changes, fun other => ?_⟩
          rw [List.mem_cons, remaining, List.mem_cons]
          refine ⟨?_, fun ⟨member, mine⟩ => member.imp_right fun member => ⟨member, mine⟩⟩
          rintro (rfl | ⟨member, mine⟩)
          · exact ⟨.inl rfl, (still changes).mp rfl⟩
          · exact ⟨.inr member, mine⟩

end Validity

/-- Where a stale record may have been removed, and each acquired key belongs to the owner, the lock
stays as it is. -/
theorem manages_of_held {backend : Backend} (own : before.backend? = some backend)
    (changes : Changes noRecord (AgedIn backend trace) s t)
    (held : ∀ key ∈ before.acquired, t.Held backend.id key before.owner.token) :
    before.Manages before s t trace where
  origin n key record found := .inl (changes.read_of_read found)
  accounts accounts n key record found := accounts n key record (changes.read_of_read found)
  intact _ n key holds := by
    obtain ⟨other, same, rfl, member⟩ := holds
    cases own.symm.trans same
    exact held key member
  spares _ n key record found _ :=
    (changes.fate n key record found).imp_right fun aged => ⟨backend, own, aged⟩

/-- A check finds a fresh record of the owner under every acquired key and leaves the lock as it
is, or it gives back what is left. -/
theorem Standing.performs_isLocked {valid : Bool} (standing : before.Standing)
    (performed : Performs answers s before.isLocked trace (valid, after) t) :
    before.Manages after s t trace ∧
      ((valid = true ∧ before.state = .locked ∧ after = before ∧
          ∀ backend, before.backend? = some backend → ∀ key ∈ before.acquired,
            ∃ record, t.read backend.id key = some record ∧
              record.owner = before.owner.token ∧ FreshIn backend trace key record) ∨
        (valid = false ∧ before.state = .locked ∧ after = before.finished) ∨
        (valid = false ∧ before.state ≠ .locked ∧ after = before)) := by
  cases standing with
  | created | released =>
      obtain ⟨rfl, same, rfl⟩ := performs_done_iff.mp performed
      cases same
      exact ⟨.refl _ rfl, .inr (.inr ⟨rfl, by simp, rfl⟩)⟩
  | locked objects backend owner relaxed nested admitted covered =>
      have standing : Standing ⟨objects, some backend, owner, .locked, relaxed, objects.keys, nested⟩ :=
        .locked _ _ _ _ _ admitted covered
      obtain ⟨lost, u, first, second, rfl, checking, performed⟩ := performs_bind_iff.mp performed
      obtain ⟨changes, found⟩ := performs_anyLost checking
      cases lost with
      | false =>
          obtain ⟨rfl, same, rfl⟩ := performs_done_iff.mp performed
          cases same
          rw [List.append_nil]
          have swept := changes.mono (fun _ _ _ _ => id) fun _ _ _ _ lost => lost.2
          refine ⟨manages_of_held rfl swept fun key member => ?_, .inl ⟨rfl, rfl, rfl, ?_⟩⟩
          · obtain ⟨record, present, mine, -⟩ := found rfl key member
            exact ⟨record, present, mine⟩
          · intro other same key member
            cases same
            exact found rfl key member
      | true =>
          obtain ⟨left, v, second, third, rfl, filtering, performed⟩ :=
            performs_bind_iff.mp performed
          obtain ⟨drops, remaining⟩ := performs_notLost (nodup_keys objects) filtering
          obtain ⟨gone, same, releasing⟩ := performs_bind_done_iff.mp performed
          cases same
          rw [release_eq_of_admitted (by simp) (by simp) admitted] at releasing
          obtain ⟨_, rfl, giving⟩ := performs_bind_done_iff.mp releasing
          refine ⟨?_, .inr (.inl ⟨rfl, rfl, rfl⟩)⟩
          have checked : Changes noRecord (AgedIn backend (first ++ second)) s v :=
            (changes.mono (fun _ _ _ _ => id) fun _ _ _ _ lost => lost.2.append_left).trans
              (drops.mono (fun _ _ _ _ => id) fun _ _ _ _ lost => lost.2.append_right)
          rw [← List.append_assoc]
          refine manages_of_releaseKeys rfl checked ?_ ?_ giving
          · rintro accounts n key held
            obtain ⟨record, present, mine⟩ := checked.held_of_held held
            obtain ⟨other, same, rfl, member⟩ := accounts n key record present mine
            cases same
            exact ⟨rfl, List.mem_reverse.mpr ((remaining key).mpr ⟨member, held⟩)⟩
          · exact fun _ key member => ((remaining key).mp (List.mem_reverse.mp member)).2

end TransactionLock

end TransactionKit
