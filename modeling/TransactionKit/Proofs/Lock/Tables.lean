import Mathlib.Logic.Function.Basic
import TransactionKit.Proofs.Lock.Attempt
import TransactionKit.Proofs.Lock.Operation

/-!
Lock tables that do not fail. What an operation does to the records is told by two sorts of them
(`Changes`): those that may have appeared, and those that may be gone. An acquisition only inserts
a record for its owner, under its key and if it succeeds; whatever goes was stale at a moment of the
operation (`AgedIn`), unless it was taken out by a removal, and that can be told exactly
(`Withdrawn`). Each function on one key has one lemma that says this, and what holds under the key
afterwards. For an acquisition that is a law of its attempts, which carries over to all of them
together (`AcquisitionLaw`).
-/

namespace TransactionKit

/-- The lock tables by their numbers, and what the clock shows. -/
structure Tables where
  time : Int
  table : Nat → RecordTable

namespace Tables

/-- The record of a key in a table. -/
def read (s : Tables) (n : Nat) (key : LockKey) : Option Record :=
  (s.table n).read key

/-- No access to a table fails. The clock may show anything at the next call, and connections may
answer anything. -/
def answers : Environment Tables
  | s, .request _ _, answer, t => answer = .ok () ∧ t.table = s.table
  | s, .create backend record, answer, t =>
    answer = .ok ((s.table backend.id).create record).1 ∧
      t.table = Function.update s.table backend.id ((s.table backend.id).create record).2
  | s, .read backend key, answer, t => answer = .ok (s.read backend.id key) ∧ t.table = s.table
  | s, .remove backend key owner?, answer, t =>
    answer = .ok ((s.table backend.id).remove key owner?).1 ∧
      t.table = Function.update s.table backend.id ((s.table backend.id).remove key owner?).2
  | s, .now, answer, t => answer = s.time ∧ t.table = s.table
  | s, .sleep _, _, t => t.table = s.table
  | s, .connect _, _, t | s, .commit _, _, t | s, .rollback _, _, t | s, .close _, _, t =>
    t.table = s.table

/-- A key belongs to an owner. -/
def Held (s : Tables) (n : Nat) (key : LockKey) (token : String) : Prop :=
  ∃ record, s.read n key = some record ∧ record.owner = token

variable {s t u : Tables}

theorem read_eq_of_table (same : t.table = s.table) : t.read = s.read := by
  funext n key
  rw [read, read, same]

/-! ## Changes -/

section Changes

/-- Of the records under the keys of the tables, those that appeared are of one sort, and those
that are gone are of another. -/
structure Changes (gained lost : Nat → LockKey → Record → Prop) (s t : Tables) : Prop where
  origin : ∀ n key record,
    t.read n key = some record → s.read n key = some record ∨ gained n key record
  fate : ∀ n key record,
    s.read n key = some record → t.read n key = some record ∨ lost n key record

/-- No record at all. -/
def noRecord (_ : Nat) (_ : LockKey) (_ : Record) : Prop :=
  False

variable {gained lost moreGained moreLost : Nat → LockKey → Record → Prop}

theorem Changes.of_eq (same : t.read = s.read) : Changes gained lost s t where
  origin n key record found := .inl (by rwa [← same])
  fate n key record found := .inl (by rwa [same])

theorem Changes.mono (changes : Changes gained lost s t)
    (widerGain : ∀ n key record, t.read n key = some record → gained n key record →
      moreGained n key record)
    (widerLoss : ∀ n key record, s.read n key = some record → lost n key record →
      moreLost n key record) :
    Changes moreGained moreLost s t where
  origin n key record found := (changes.origin n key record found).imp_right (widerGain _ _ _ found)
  fate n key record found := (changes.fate n key record found).imp_right (widerLoss _ _ _ found)

theorem Changes.trans (first : Changes gained lost s u) (second : Changes gained lost u t) :
    Changes gained lost s t where
  origin n key record found :=
    (second.origin n key record found).elim (first.origin n key record) .inr
  fate n key record found :=
    (first.fate n key record found).elim (second.fate n key record) .inr

/-- Changes that gain nothing keep nothing but what was there. -/
theorem Changes.read_of_read (changes : Changes noRecord lost s t) {n : Nat} {key : LockKey}
    {record : Record} (found : t.read n key = some record) : s.read n key = some record :=
  (changes.origin n key record found).elim id False.elim

theorem Changes.held_of_held (changes : Changes noRecord lost s t) {n : Nat} {key : LockKey}
    {token : String} (held : t.Held n key token) : s.Held n key token := by
  obtain ⟨record, found, own⟩ := held
  exact ⟨record, changes.read_of_read found, own⟩

end Changes

section Withdrawals

/-- The records of one sort are gone, and nothing else has changed. -/
def Withdrawn (sort : Nat → LockKey → Record → Prop) (s t : Tables) : Prop :=
  ∀ n key record, t.read n key = some record ↔ s.read n key = some record ∧ ¬ sort n key record

variable {sort other : Nat → LockKey → Record → Prop}

theorem Withdrawn.of_eq (same : t.read = s.read)
    (none : ∀ n key record, s.read n key = some record → ¬ sort n key record) :
    Withdrawn sort s t := by
  intro n key record
  rw [same]
  exact ⟨fun found => ⟨found, none n key record found⟩, And.left⟩

theorem Withdrawn.mono (withdrawn : Withdrawn sort s t)
    (same : ∀ n key record, s.read n key = some record →
      (other n key record ↔ sort n key record)) : Withdrawn other s t := by
  intro n key record
  rw [withdrawn n key record]
  exact and_congr_right fun found => not_congr (same n key record found).symm

theorem Withdrawn.trans (first : Withdrawn sort s u) (second : Withdrawn other u t) :
    Withdrawn (fun n key record => sort n key record ∨ other n key record) s t := by
  intro n key record
  rw [second n key record, first n key record, not_or, and_assoc]

theorem Withdrawn.changes (withdrawn : Withdrawn sort s t) : Changes noRecord sort s t where
  origin n key record found := .inl ((withdrawn n key record).mp found).1
  fate n key record found := by
    by_cases taken : sort n key record
    · exact .inr taken
    · exact .inl ((withdrawn n key record).mpr ⟨found, taken⟩)

end Withdrawals

/-! ## Single calls -/

section Calls

variable {backend : Backend} {key : LockKey} {record : Record}

theorem changes_create {answer : Except Error Bool}
    (answered : answers s (.create backend record) answer t) :
    ∃ inserted, answer = .ok inserted ∧
      Changes (fun n key r => inserted = true ∧ n = backend.id ∧ key = record.key ∧ r = record)
        noRecord s t ∧
      (inserted = true → t.read backend.id record.key = some record) := by
  obtain ⟨rfl, stored⟩ := answered
  have after (n : Nat) (key : LockKey) : t.read n key =
      if n = backend.id ∧ ((s.table backend.id).create record).1 = true ∧ record.key = key then
        some record
      else s.read n key := by
    rw [read, stored]
    by_cases same : n = backend.id
    · subst same
      rw [Function.update_self, RecordTable.read_create]
      simp [read]
    · rw [Function.update_of_ne same, if_neg fun both => same both.1]
      rfl
  refine ⟨_, rfl, ⟨fun n key r found => ?_, fun n key r found => ?_⟩, fun inserted => ?_⟩
  · rw [after] at found
    split at found
    · rename_i new
      exact .inr ⟨new.2.1, new.1, new.2.2.symm, (Option.some.inj found).symm⟩
    · exact .inl found
  · rw [after]
    split
    · rename_i new
      obtain ⟨rfl, inserted, rfl⟩ := new
      have vacant := RecordTable.create_fst_eq_true.mp inserted
      cases found.symm.trans vacant
    · exact .inl found
  · rw [after, if_pos ⟨rfl, inserted, rfl⟩]

theorem changes_remove {owner? : Option String} {answer : Except Error Bool}
    (answered : answers s (.remove backend key owner?) answer t) :
    (∃ removed, answer = .ok removed) ∧
      Changes noRecord
        (fun n k r => n = backend.id ∧ k = key ∧ owner?.all (· == r.owner) = true) s t ∧
      ∀ r, t.read backend.id key = some r → owner?.all (· == r.owner) ≠ true := by
  obtain ⟨rfl, stored⟩ := answered
  have after (n : Nat) (k : LockKey) : t.read n k =
      if n = backend.id ∧ ((s.table backend.id).remove key owner?).1 = true ∧ key = k then none
      else s.read n k := by
    rw [read, stored]
    by_cases same : n = backend.id
    · subst same
      rw [Function.update_self, RecordTable.read_remove]
      simp [read]
    · rw [Function.update_of_ne same, if_neg fun both => same both.1]
      rfl
  refine ⟨⟨_, rfl⟩, ⟨fun n k r found => ?_, fun n k r found => ?_⟩, fun r found asked => ?_⟩
  · rw [after] at found
    split at found
    · cases found
    · exact .inl found
  · rw [after]
    split
    · rename_i gone
      obtain ⟨rfl, removed, rfl⟩ := gone
      obtain ⟨other, present, asked⟩ := RecordTable.remove_fst_eq_true.mp removed
      cases found.symm.trans present
      exact .inr ⟨rfl, rfl, asked⟩
    · exact .inl found
  · rw [after] at found
    split at found
    · cases found
    · rename_i kept
      have removed := RecordTable.remove_fst_eq_true.mpr ⟨r, found, asked⟩
      exact kept ⟨rfl, removed, rfl⟩

/-- A removal takes out the record of its key, if the owner asked for has it. -/
theorem withdrawn_remove {owner? : Option String} {answer : Except Error Bool}
    (answered : answers s (.remove backend key owner?) answer t) :
    Withdrawn (fun n k record => n = backend.id ∧ k = key ∧ owner?.all (· == record.owner) = true)
      s t := by
  obtain ⟨-, changes, left⟩ := changes_remove answered
  intro n k record
  constructor
  · intro found
    refine ⟨changes.read_of_read found, ?_⟩
    rintro ⟨rfl, rfl, asked⟩
    exact left record found asked
  · rintro ⟨found, stays⟩
    exact (changes.fate n k record found).resolve_right stays

end Calls

/-- A call that leaves every table as it is. -/
def SparesRecords : Call → Prop
  | .create .. | .remove .. => False
  | .request .. | .read .. | .now | .sleep _ => True
  | .connect _ | .commit _ | .rollback _ | .close _ => True

theorem read_eq_of_only {α : Type} {r : Routine α} {trace : List (Moment Tables)} {a : α}
    (only : Routine.Only SparesRecords r) (performed : Routine.Performs answers s r trace a t) :
    t.read = s.read := by
  induction performed with
  | done s a => rfl
  | @call s u t c next answer trace a answered rest hypothesis =>
      refine (hypothesis (only.2 answer)).trans (read_eq_of_table ?_)
      have sort := only.1
      cases c with
      | create | remove => exact sort.elim
      | request | read | now => exact answered.2
      | sleep | connect | commit | rollback | close => exact answered

/-! ## Stale records -/

section Staleness

variable {backend : Backend} {trace first second : List (Moment Tables)} {n : Nat} {key : LockKey}
  {record : Record}

/-- At a moment of a trace a record of a backend was in its table and stale. -/
def AgedIn (backend : Backend) (trace : List (Moment Tables)) (n : Nat) (key : LockKey)
    (record : Record) : Prop :=
  n = backend.id ∧ ∃ moment ∈ trace, moment.state.read n key = some record ∧
    record.isStale backend.config.maxLockAge moment.state.time = true

/-- At a moment of a trace a record of a backend was in its table and not stale. -/
def FreshIn (backend : Backend) (trace : List (Moment Tables)) (key : LockKey)
    (record : Record) : Prop :=
  ∃ moment ∈ trace, moment.state.read backend.id key = some record ∧
    record.isStale backend.config.maxLockAge moment.state.time = false

theorem AgedIn.append_left (aged : AgedIn backend first n key record) :
    AgedIn backend (first ++ second) n key record := by
  obtain ⟨same, moment, member, stale⟩ := aged
  exact ⟨same, moment, List.mem_append_left _ member, stale⟩

theorem AgedIn.append_right (aged : AgedIn backend second n key record) :
    AgedIn backend (first ++ second) n key record := by
  obtain ⟨same, moment, member, stale⟩ := aged
  exact ⟨same, moment, List.mem_append_right _ member, stale⟩

theorem FreshIn.append_left (fresh : FreshIn backend first key record) :
    FreshIn backend (first ++ second) key record := by
  obtain ⟨moment, member, found⟩ := fresh
  exact ⟨moment, List.mem_append_left _ member, found⟩

theorem FreshIn.append_right (fresh : FreshIn backend second key record) :
    FreshIn backend (first ++ second) key record := by
  obtain ⟨moment, member, found⟩ := fresh
  exact ⟨moment, List.mem_append_right _ member, found⟩

/-- Stale records of one key. -/
def AgedAt (backend : Backend) (key : LockKey) (trace : List (Moment Tables)) (n : Nat)
    (k : LockKey) (record : Record) : Prop :=
  k = key ∧ AgedIn backend trace n k record

theorem AgedAt.append_left (aged : AgedAt backend key first n k record) :
    AgedAt backend key (first ++ second) n k record :=
  ⟨aged.1, aged.2.append_left⟩

theorem AgedAt.append_right (aged : AgedAt backend key second n k record) :
    AgedAt backend key (first ++ second) n k record :=
  ⟨aged.1, aged.2.append_right⟩

end Staleness

/-! ## The functions on one key -/

section Functions

variable {backend : Backend} {key : LockKey} {owner : Owner} {trace : List (Moment Tables)}

/-- An eviction removes the record of its key if it is stale, so one that is left is fresh. -/
theorem performs_evictStale {answer : Except Error (Option Record)}
    (performed : Routine.Performs answers s (backend.evictStale key) trace answer t) :
    (∃ evicted?, answer = .ok evicted?) ∧
      Changes noRecord (AgedAt backend key trace) s t ∧
      ∀ record, t.read backend.id key = some record → FreshIn backend trace key record := by
  obtain ⟨found?, u, rest, rfl, ⟨found, same⟩, goes⟩ := Backend.goes_evictStale performed
  have sameRead := read_eq_of_table same
  cases goes with
  | unread e => cases found
  | vacant =>
      refine ⟨⟨none, rfl⟩, .of_eq sameRead, fun record present => ?_⟩
      rw [sameRead, ← Except.ok.inj found] at present
      cases present
  | @fresh record u v now looking fresh =>
      obtain ⟨rfl, unchanged⟩ := looking
      have there : u.read backend.id key = some record := by rw [sameRead, ← Except.ok.inj found]
      have sameEnd := read_eq_of_table unchanged
      refine ⟨⟨none, rfl⟩, .of_eq (sameEnd.trans sameRead), fun r present => ?_⟩
      rw [sameEnd, there] at present
      cases present
      exact ⟨_, List.mem_cons_of_mem _ List.mem_cons_self, there, fresh⟩
  | @stale record u v w now answer looking stale removing =>
      obtain ⟨rfl, unchanged⟩ := looking
      obtain ⟨⟨removed, rfl⟩, changes, left⟩ := changes_remove removing
      have there : u.read backend.id key = some record := by rw [sameRead, ← Except.ok.inj found]
      have vRead := read_eq_of_table unchanged
      have same : v.read backend.id key = some record := by rw [vRead, there]
      refine ⟨⟨_, rfl⟩,
        (Changes.of_eq (vRead.trans sameRead)).trans (changes.mono (fun _ _ _ _ => id) ?_), ?_⟩
      · rintro n k r present ⟨rfl, rfl, -⟩
        cases same.symm.trans present
        exact ⟨rfl, rfl, _, List.mem_cons_of_mem _ List.mem_cons_self, there, stale⟩
      · intro r present
        cases same.symm.trans (changes.read_of_read present)
        exact absurd (beq_self_eq_true record.owner) (left record present)

/-- A check of an owner evicts, and answers whether the owner holds the key afterwards. -/
theorem performs_isHeldBy {answer : Except Error Bool}
    (performed : Routine.Performs answers s (backend.isHeldBy key owner) trace answer t) :
    (∃ held, answer = .ok held ∧ (held = true ↔ t.Held backend.id key owner.token)) ∧
      Changes noRecord (AgedAt backend key trace) s t ∧
      ∀ record, t.read backend.id key = some record → FreshIn backend trace key record := by
  obtain ⟨result, rfl, checking⟩ := Routine.performs_bind_done_iff.mp performed
  obtain ⟨evicted, u, first, second, rfl, evicting, performed⟩ :=
    Routine.performs_bind_iff.mp checking
  obtain ⟨⟨evicted?, rfl⟩, changes, fresh⟩ := performs_evictStale evicting
  obtain ⟨found?, v, rest, rfl, ⟨rfl, same⟩, ended⟩ := Routine.performs_call_iff.mp performed
  obtain ⟨rfl, rfl, rfl⟩ := Routine.performs_done_iff.mp ended
  have sameRead := read_eq_of_table same
  refine ⟨⟨_, rfl, ?_⟩, ?_, fun record found => ?_⟩
  · rw [Held, sameRead]
    cases u.read backend.id key <;> simp
  · refine (changes.mono (fun _ _ _ _ => id) ?_).trans (.of_eq sameRead)
    exact fun _ _ _ _ => AgedAt.append_left
  · rw [sameRead] at found
    exact (fresh record found).append_left

/-! ## Trying again -/

/-- What the attempts to acquire a key obey, an acquisition of the key obeys too, if what comes to
nothing may come before. One law is for executions that may acquire the key, the other one for those
that are in vain. -/
structure AcquisitionLaw (environment : Environment Tables) (backend : Backend) (key : LockKey)
    (owner : Owner) (vain : List (Moment Tables) → Tables → Tables → Prop)
    (law : Prop → List (Moment Tables) → Tables → Tables → Prop) : Prop where
  spares : ∀ {α : Type} {r : Routine α} {s t : Tables} {trace : List (Moment Tables)} {a : α},
    Routine.Performs environment s r trace a t → Routine.Only SparesRecords r → vain trace s t
  failed : ∀ {acquired : Prop} {s t : Tables} {trace : List (Moment Tables)}, ¬ acquired →
    (law acquired trace s t ↔ vain trace s t)
  after : ∀ {acquired : Prop} {s t u : Tables} {first second : List (Moment Tables)},
    vain first s u → law acquired second u t → law acquired (first ++ second) s t
  attempts : ∀ {s t : Tables} {trace : List (Moment Tables)} {attempt : Backend.Attempt},
    Routine.Performs environment s (backend.attempt key owner) trace attempt t →
      law (attempt = .acquired) trace s t

namespace AcquisitionLaw

variable {environment : Environment Tables}
  {vain : List (Moment Tables) → Tables → Tables → Prop}
  {law : Prop → List (Moment Tables) → Tables → Tables → Prop} {rounds : Nat} {deadline : Deadline}

/-- After a refusal there is the end at the deadline, or a pause and then more. -/
theorem retry (laws : AcquisitionLaw environment backend key owner vain law) {α : Type}
    {acquired : Prop} {result a : α} {again : Routine α} {nanos : Nat}
    (performed : Routine.Performs environment s
      (deadline.expired >>= fun expired =>
        if expired then .done result else deadline.pause nanos >>= fun _ => again) trace a t)
    (late : a = result → ¬ acquired)
    (later : ∀ v rest, Routine.Performs environment v again rest a t → law acquired rest v t) :
    law acquired trace s t := by
  obtain ⟨expired, v, first, second, rfl, looking, performed⟩ :=
    Routine.performs_bind_iff.mp performed
  apply laws.after (laws.spares looking (deadline.only_expired trivial))
  cases expired with
  | true =>
    have ended := Routine.performs_done_iff.mp performed
    exact (laws.failed (late ended.2.1)).mpr (laws.spares performed trivial)
  | false =>
    obtain ⟨_, w, first, second, rfl, pausing, performed⟩ := Routine.performs_bind_iff.mp performed
    apply laws.after (laws.spares pausing (deadline.only_pause trivial (fun _ => trivial) nanos))
    exact later w second performed

theorem poll (laws : AcquisitionLaw environment backend key owner vain law)
    {answer : Except Error Unit}
    (performed : Routine.Performs environment s (backend.poll key owner deadline rounds) trace
      answer t) : law (answer = .ok ()) trace s t := by
  induction rounds generalizing s trace with
  | zero => exact absurd performed Routine.not_performs_starved
  | succ rounds ih =>
    obtain ⟨attempt, u, first, second, rfl, attempting, performed⟩ :=
      Routine.performs_bind_iff.mp performed
    have attempted := laws.attempts attempting
    cases attempt with
    | acquired =>
      obtain ⟨rfl, rfl, rfl⟩ := Routine.performs_done_iff.mp performed
      simpa using attempted
    | evicted => exact laws.after ((laws.failed (by decide)).mp attempted) (ih performed)
    | refused =>
      apply laws.after ((laws.failed (by decide)).mp attempted)
      apply laws.retry performed
      · rintro rfl
        simp
      · exact fun v rest => ih

theorem lock (laws : AcquisitionLaw environment backend key owner vain law) {timeout : Timeout}
    {answer : Except Error Unit}
    (performed : Routine.Performs environment s (backend.lock rounds key owner timeout) trace
      answer t) : law (answer = .ok ()) trace s t := by
  obtain ⟨granted, u, first, second, rfl, asking, performed⟩ :=
    Routine.performs_bind_iff.mp performed
  apply laws.after (laws.spares asking ⟨trivial, fun _ => trivial⟩)
  cases granted with
  | error e =>
    obtain ⟨-, rfl, -⟩ := Routine.performs_done_iff.mp performed
    exact (laws.failed (by simp)).mpr (laws.spares performed trivial)
  | ok _ =>
    obtain ⟨deadline, v, first, second, rfl, starting, performed⟩ :=
      Routine.performs_bind_iff.mp performed
    apply laws.after (laws.spares starting (Deadline.only_after trivial timeout))
    exact laws.poll performed

end AcquisitionLaw

/-! ## Acquisition of one key -/

/-- The record of an owner under a key, if the key was acquired. -/
def Acquired (backend : Backend) (key : LockKey) (owner : Owner) (acquired : Prop) (n : Nat)
    (k : LockKey) (record : Record) : Prop :=
  acquired ∧ n = backend.id ∧ k = key ∧ record.owner = owner.token

/-- What an acquisition of a key does, whether it succeeds or not. -/
structure Acquires (backend : Backend) (key : LockKey) (owner : Owner)
    (trace : List (Moment Tables)) (acquired : Prop) (s t : Tables) : Prop where
  changes : Changes (Acquired backend key owner acquired) (AgedAt backend key trace) s t
  held : acquired → t.Held backend.id key owner.token

theorem Acquires.of_vain {acquired : Prop} (failed : ¬ acquired)
    (vain : Changes noRecord (AgedAt backend key trace) s t) :
    Acquires backend key owner trace acquired s t where
  changes := vain.mono (fun _ _ _ _ => False.elim) fun _ _ _ _ => id
  held succeeded := absurd succeeded failed

/-- What was done in vain before belongs to an acquisition. -/
theorem Acquires.after {acquired : Prop} {first second : List (Moment Tables)}
    (vain : Changes noRecord (AgedAt backend key first) s u)
    (acquires : Acquires backend key owner second acquired u t) :
    Acquires backend key owner (first ++ second) acquired s t where
  changes := (vain.mono (fun _ _ _ _ => False.elim) fun _ _ _ _ => AgedAt.append_left).trans
    (acquires.changes.mono (fun _ _ _ _ => id) fun _ _ _ _ => AgedAt.append_right)
  held := acquires.held

theorem Acquires.vain {acquired : Prop} (failed : ¬ acquired)
    (acquires : Acquires backend key owner trace acquired s t) :
    Changes noRecord (AgedAt backend key trace) s t :=
  acquires.changes.mono (fun _ _ _ _ gained => failed gained.1) fun _ _ _ _ => id

theorem performs_attempt {attempt : Backend.Attempt}
    (performed : Routine.Performs answers s (backend.attempt key owner) trace attempt t) :
    Acquires backend key owner trace (attempt = .acquired) s t := by
  obtain ⟨now, u, created, v, rest, rfl, ⟨rfl, same⟩, creating, goes⟩ :=
    Backend.goes_attempt performed
  obtain ⟨inserted, rfl, changes, held⟩ := changes_create creating
  have sameRead := read_eq_of_table same
  have unchanged (failed : inserted = false) (past : List (Moment Tables)) :
      Changes noRecord (AgedAt backend key past) s v :=
    (Changes.of_eq sameRead).trans (changes.mono (by simp [failed]) fun _ _ _ _ => False.elim)
  have failing {answer : Except Error (Option Record)} (failed : inserted = false)
      (missed : attempt ≠ .acquired) (past : List (Moment Tables))
      (evicting : Routine.Performs answers v (backend.evictStale key) rest answer t) :
      Acquires backend key owner (past ++ rest) (attempt = .acquired) s t :=
    .after (unchanged failed past)
      ⟨(performs_evictStale evicting).2.1.mono (fun _ _ _ _ => False.elim) fun _ _ _ _ => id,
        fun succeeded => absurd succeeded missed⟩
  cases goes with
  | inserted =>
      refine ⟨(Changes.of_eq sameRead).trans (changes.mono ?_ fun _ _ _ _ => False.elim), ?_⟩
      · rintro n k r - ⟨-, rfl, rfl, rfl⟩
        exact ⟨rfl, rfl, rfl, rfl⟩
      · exact fun _ => ⟨_, held rfl, rfl⟩
  | evicted evicting => exact failing rfl (by decide) [_, _] evicting
  | kept evicting => exact failing rfl (by decide) [_, _] evicting

theorem acquisitionLaw_answers (backend : Backend) (key : LockKey) (owner : Owner) :
    AcquisitionLaw answers backend key owner
      (fun trace => Changes noRecord (AgedAt backend key trace))
      (fun acquired trace => Acquires backend key owner trace acquired) where
  spares performed only := .of_eq (read_eq_of_only only performed)
  failed missed := ⟨Acquires.vain missed, Acquires.of_vain missed⟩
  after := Acquires.after
  attempts := performs_attempt

end Functions

/-! ## A world that answers -/

/-- Tables whose clock only advances while somebody sleeps, and stores without transactions. -/
def handle : Handler Tables
  | .request .., s => (.ok (), s)
  | .create backend record, s =>
    (.ok ((s.table backend.id).create record).1,
      { s with
        table := Function.update s.table backend.id ((s.table backend.id).create record).2 })
  | .read backend key, s => (.ok (s.read backend.id key), s)
  | .remove backend key owner?, s =>
    (.ok ((s.table backend.id).remove key owner?).1,
      { s with
        table := Function.update s.table backend.id ((s.table backend.id).remove key owner?).2 })
  | .now, s => (s.time, s)
  | .sleep nanos, s => ((), { s with time := s.time + nanos })
  | .connect _, s => (.ok none, s)
  | .commit _, s | .rollback _, s | .close _, s => (.ok (), s)

theorem answers_handle (s : Tables) (c : Call) : answers s c (handle c s).1 (handle c s).2 := by
  cases c with
  | request | create | read | remove | now => exact ⟨rfl, rfl⟩
  | sleep | connect | commit | rollback | close => rfl

/-- Under the handler every routine that ends is performed. -/
theorem performs_handle {α : Type} {r : Routine α} {a : α}
    (ran : r.run handle s = (some a, t)) :
    Routine.Performs answers s r (r.runTrace handle s) a t :=
  Routine.performs_of_run answers_handle ran

end Tables

end TransactionKit
