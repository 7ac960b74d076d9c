import TransactionKit.Proofs.Lock.Tables

/-!
Lock tables that others use at the same time and whose accesses may fail. Others leave the records
of certain owners alone (`Others`), and they may act after certain calls (`visited`). A failed
access has no effect (`faltering`). What a routine does to the records of these owners can then be
told from its own calls: only an insertion brings one and only a removal takes one away
(`changes_step`). So an acquisition brings the record of its owner exactly if it succeeds
(`Seizes`), however often it has failed before and whoever was in its way.
-/

namespace TransactionKit

/-- An access to a lock table that failed. -/
def Exchange.Fails : Exchange → Prop
  | ⟨.request .., answer⟩ => ∃ e, answer = .error e
  | ⟨.create .., answer⟩ => ∃ e, answer = .error e
  | ⟨.read .., answer⟩ => ∃ e, answer = .error e
  | ⟨.remove .., answer⟩ => ∃ e, answer = .error e
  | _ => False

/-- A call that inserts no record, and removes none but that of a key. -/
def Call.Empties (backend : Backend) (key : LockKey) : Call → Prop
  | .create .. => False
  | .remove target other _ => target = backend ∧ other = key
  | _ => True

namespace LockOperation

/-- The key that an operation is about. -/
def key : LockOperation → LockKey
  | lock _ key _ _ | release key _ | isHeld key | isHeldBy key _ | evictStale key => key

/-- An operation removes no record but that of its key. -/
theorem MayRemove.key_eq {backend : Backend} {past : List Exchange} {key : LockKey}
    {operation : LockOperation} {owner? : Option String}
    (may : MayRemove backend past key operation owner?) : operation.key = key := by
  cases may with
  | own | anyone => rfl
  | stale evicts =>
    cases operation with
    | release => exact evicts.elim
    | lock | isHeld | isHeldBy | evictStale => exact evicts

/-- Every operation but an acquisition empties its key at most. -/
theorem only_empties (backend : Backend) (operation : LockOperation)
    (quiet : ∀ rounds key owner timeout, operation ≠ lock rounds key owner timeout) :
    Routine.Only (Call.Empties backend operation.key) (operation.routine backend) := by
  apply (conducts_routine backend operation).only
  intro past c permitted
  cases c with
  | create target record =>
    obtain ⟨-, rounds, key, owner, timeout, moment, acquires, -⟩ := permitted
    exact quiet rounds key owner timeout acquires
  | remove target key owner? =>
    obtain ⟨rfl, may⟩ := permitted
    exact ⟨rfl, may.key_eq.symm⟩
  | request | read | now | sleep => trivial
  | connect | commit | rollback | close => exact permitted.elim

end LockOperation

namespace Tables

/-- What others do: the clock and the records of certain owners stay as they are. -/
structure Others (mine : String → Prop) (s t : Tables) : Prop where
  time : t.time = s.time
  own : ∀ n key record, mine record.owner →
    (t.read n key = some record ↔ s.read n key = some record)

/-- An access to a table may fail, and then nothing happens. -/
def faltering : Environment Tables :=
  fun s c answer t => answers s c answer t ∨ Exchange.Fails ⟨c, answer⟩ ∧ t.table = s.table

/-- Others may act after some of the calls. -/
def visited (mine : String → Prop) (exposed : Call → Prop) (environment : Environment Tables) :
    Environment Tables :=
  fun s c answer t => ∃ u, environment s c answer u ∧ (t = u ∨ exposed c ∧ Others mine u t)

theorem visited_faltering {mine : String → Prop} {exposed : Call → Prop} {s : Tables} {c : Call}
    {answer : c.Answer} {t : Tables} (answered : visited mine exposed answers s c answer t) :
    visited mine exposed faltering s c answer t := by
  obtain ⟨u, answered, ended⟩ := answered
  exact ⟨u, .inl answered, ended⟩

/-- The record of an owner that others do not leave alone. -/
def foreign (mine : String → Prop) (_ : Nat) (_ : LockKey) (record : Record) : Prop :=
  ¬ mine record.owner

/-- A record of one of our owners under a key of a backend. -/
def ownAt (mine : String → Prop) (backend : Backend) (key : LockKey) (n : Nat) (k : LockKey)
    (record : Record) : Prop :=
  mine record.owner → n = backend.id ∧ k = key

variable {mine : String → Prop} {exposed : Call → Prop} {s t u : Tables}

theorem Others.changes {gained lost : Nat → LockKey → Record → Prop} (others : Others mine s t)
    (gain : ∀ n key record, ¬ mine record.owner → gained n key record)
    (loss : ∀ n key record, ¬ mine record.owner → lost n key record) :
    Changes gained lost s t where
  origin n key record found := by
    by_cases own : mine record.owner
    · exact .inl ((others.own n key record own).mp found)
    · exact .inr (gain n key record own)
  fate n key record found := by
    by_cases own : mine record.owner
    · exact .inl ((others.own n key record own).mpr found)
    · exact .inr (loss n key record own)

theorem Others.held_iff (others : Others mine s t) {n : Nat} {key : LockKey} {token : String}
    (own : mine token) : t.Held n key token ↔ s.Held n key token := by
  constructor
  · rintro ⟨record, found, rfl⟩
    exact ⟨record, (others.own n key record own).mp found, rfl⟩
  · rintro ⟨record, found, rfl⟩
    exact ⟨record, (others.own n key record own).mpr found, rfl⟩

/-! ## Single calls -/

/-- The record that an exchange brings. -/
def Brings : Exchange → Nat → LockKey → Record → Prop
  | ⟨.create backend record, answer⟩, n, key, other =>
    answer = .ok true ∧ n = backend.id ∧ key = record.key ∧ other = record
  | _, _, _, _ => False

/-- The records that a call asks to be removed. -/
def Targets : Call → Nat → LockKey → Record → Prop
  | .remove backend key owner?, n, other, record =>
    n = backend.id ∧ other = key ∧ owner?.all (· == record.owner) = true
  | _, _, _, _ => False

theorem changes_faltering {c : Call} {answer : c.Answer} (answered : faltering s c answer t) :
    Changes (Brings ⟨c, answer⟩) (Targets c) s t := by
  rcases answered with answered | ⟨-, same⟩
  · cases c with
    | create backend record =>
      obtain ⟨inserted, rfl, changes, -⟩ := changes_create answered
      apply changes.mono
      · rintro n key other - ⟨rfl, rfl, rfl, rfl⟩
        exact ⟨rfl, rfl, rfl, rfl⟩
      · exact fun _ _ _ _ => False.elim
    | remove backend key owner? =>
      obtain ⟨-, changes, -⟩ := changes_remove answered
      exact changes.mono (fun _ _ _ _ => False.elim) fun _ _ _ _ => id
    | request | read | now => exact .of_eq (read_eq_of_table answered.2)
    | sleep | connect | commit | rollback | close => exact .of_eq (read_eq_of_table answered)
  · exact .of_eq (read_eq_of_table same)

/-- Our records come and go by our own calls only. -/
theorem changes_step {c : Call} {answer : c.Answer}
    (answered : visited mine exposed faltering s c answer t) :
    Changes (fun n key record => mine record.owner → Brings ⟨c, answer⟩ n key record)
      (fun n key record => mine record.owner → Targets c n key record) s t := by
  obtain ⟨u, answered, ended⟩ := answered
  have own : Changes (fun n key record => mine record.owner → Brings ⟨c, answer⟩ n key record)
      (fun n key record => mine record.owner → Targets c n key record) s u :=
    (changes_faltering answered).mono (fun _ _ _ _ brought _ => brought)
      fun _ _ _ _ asked _ => asked
  rcases ended with rfl | ⟨-, others⟩
  · exact own
  · apply own.trans
    apply others.changes
    · exact fun n key record notOurs ours => absurd ours notOurs
    · exact fun n key record notOurs ours => absurd ours notOurs

/-- A record that was inserted for one of our owners is there. -/
theorem held_of_create {backend : Backend} {record : Record} (own : mine record.owner)
    (answered : visited mine exposed faltering s (.create backend record) (.ok true) t) :
    t.Held backend.id record.key record.owner := by
  obtain ⟨u, answered, ended⟩ := answered
  have inserted : u.Held backend.id record.key record.owner := by
    rcases answered with answered | ⟨⟨e, failed⟩, -⟩
    · obtain ⟨inserted, same, -, held⟩ := changes_create answered
      cases same
      exact ⟨record, held rfl, rfl⟩
    · cases failed
  rcases ended with rfl | ⟨-, others⟩
  · exact inserted
  · exact (others.held_iff own).mpr inserted

/-! ## Routines that insert nothing -/

section Emptying

variable {α : Type} {r : Routine α} {trace : List (Moment Tables)} {a : α} {backend : Backend}
  {key : LockKey}

/-- A call that brings no record, and asks for none but that of a key to be removed. -/
theorem vain_of_step {c : Call} {answer : c.Answer}
    (answered : visited mine exposed faltering s c answer t)
    (quiet : ∀ n k record, ¬ Brings ⟨c, answer⟩ n k record)
    (target : ∀ n k record, Targets c n k record → n = backend.id ∧ k = key) :
    Changes (foreign mine) (ownAt mine backend key) s t := by
  apply (changes_step answered).mono
  · exact fun n k record _ brought ours => quiet n k record (brought ours)
  · exact fun n k record _ asked ours => target n k record (asked ours)

/-- Nothing of ours appears, and what is gone was under one key. -/
theorem vain_of_only (only : Routine.Only (Call.Empties backend key) r)
    (performed : Routine.Performs (visited mine exposed faltering) s r trace a t) :
    Changes (foreign mine) (ownAt mine backend key) s t := by
  induction performed with
  | done s a => exact .of_eq rfl
  | @call s u t c next answer trace a answered rest ih =>
    apply Changes.trans _ (ih (only.2 answer))
    apply vain_of_step answered
    · intro n k record brings
      cases c with
      | create => exact only.1
      | _ => exact brings
    · intro n k record targets
      cases c with
      | remove target other owner? =>
        obtain ⟨rfl, rfl⟩ := only.1
        exact ⟨targets.1, targets.2.1⟩
      | _ => exact targets.elim

/-- A routine that leaves the tables alone changes nothing of ours. -/
theorem changes_of_sparing (only : Routine.Only SparesRecords r)
    (performed : Routine.Performs (visited mine exposed faltering) s r trace a t) :
    Changes (foreign mine) (foreign mine) s t := by
  induction performed with
  | done s a => exact .of_eq rfl
  | @call s u t c next answer trace a answered rest ih =>
    apply Changes.trans _ (ih (only.2 answer))
    apply (changes_step answered).mono
    · intro n k record _ brought ours
      have brings := brought ours
      cases c with
      | create => exact only.1
      | _ => exact brings
    · intro n k record _ asked ours
      have targets := asked ours
      cases c with
      | remove => exact only.1
      | _ => exact targets

end Emptying

/-! ## Acquisition of one key -/

/-- What an acquisition does to our records: it brings one under its key if it succeeds, and at most
takes away what was under its key. -/
structure Seizes (mine : String → Prop) (backend : Backend) (key : LockKey) (owner : Owner)
    (acquired : Prop) (s t : Tables) : Prop where
  changes : Changes (fun n k record => mine record.owner →
    acquired ∧ n = backend.id ∧ k = key ∧ record.owner = owner.token) (ownAt mine backend key) s t
  held : acquired → t.Held backend.id key owner.token

section Acquisition

variable {backend : Backend} {key : LockKey} {owner : Owner} {trace : List (Moment Tables)}
  {acquired other : Prop}

theorem Seizes.of_vain (failed : ¬ acquired)
    (vain : Changes (foreign mine) (ownAt mine backend key) s t) :
    Seizes mine backend key owner acquired s t where
  changes := vain.mono (fun _ _ _ _ notOurs ours => absurd ours notOurs) fun _ _ _ _ => id
  held succeeded := absurd succeeded failed

theorem Seizes.vain (failed : ¬ acquired) (seizes : Seizes mine backend key owner acquired s t) :
    Changes (foreign mine) (ownAt mine backend key) s t :=
  seizes.changes.mono (fun _ _ _ _ gained ours => failed (gained ours).1) fun _ _ _ _ => id

/-- What was done in vain before belongs to an acquisition. -/
theorem Seizes.after (vain : Changes (foreign mine) (ownAt mine backend key) s u)
    (seizes : Seizes mine backend key owner acquired u t) :
    Seizes mine backend key owner acquired s t where
  changes := by
    apply Changes.trans _ seizes.changes
    exact vain.mono (fun _ _ _ _ notOurs ours => absurd ours notOurs) fun _ _ _ _ => id
  held := seizes.held

variable (own : mine owner.token)

include own

theorem seizes_attempt {attempt : Backend.Attempt}
    (performed : Routine.Performs (visited mine exposed faltering) s (backend.attempt key owner)
      trace attempt t) :
    Seizes mine backend key owner (attempt = .acquired) s t := by
  obtain ⟨now, u, created, v, rest, rfl, looking, creating, goes⟩ := Backend.goes_attempt performed
  apply Seizes.after (vain_of_step looking (fun _ _ _ => id) fun _ _ _ => False.elim)
  -- the insertion comes to nothing unless it is answered that it has happened
  have refused (failed : created ≠ .ok true) :
      Changes (foreign mine) (ownAt mine backend key) u v :=
    vain_of_step creating (fun _ _ _ brings => failed brings.1) fun _ _ _ => False.elim
  have swept {answer : Except Error (Option Record)}
      (evicting : Routine.Performs (visited mine exposed faltering) v (backend.evictStale key) rest
        answer t) : Changes (foreign mine) (ownAt mine backend key) v t :=
    vain_of_only (LockOperation.only_empties backend (.evictStale key) nofun) evicting
  cases goes with
  | inserted =>
    constructor
    · apply (changes_step creating).mono
      · intro n k record _ brought ours
        obtain ⟨-, rfl, rfl, rfl⟩ := brought ours
        exact ⟨rfl, rfl, rfl, rfl⟩
      · exact fun _ _ _ _ asked ours => (asked ours).elim
    · exact fun _ => held_of_create own creating
  | failed e => exact .of_vain (by decide) (refused (by simp))
  | evicted evicting => exact .after (refused (by simp)) (.of_vain (by decide) (swept evicting))
  | kept evicting => exact .after (refused (by simp)) (.of_vain (by decide) (swept evicting))

theorem acquisitionLaw_visited (backend : Backend) (key : LockKey) :
    AcquisitionLaw (visited mine exposed faltering) backend key owner
      (fun _ => Changes (foreign mine) (ownAt mine backend key))
      (fun acquired _ => Seizes mine backend key owner acquired) where
  spares performed only := (changes_of_sparing only performed).mono (fun _ _ _ _ => id)
    fun _ _ _ _ notOurs ours => absurd ours notOurs
  failed missed := ⟨Seizes.vain missed, Seizes.of_vain missed⟩
  after := Seizes.after
  attempts := seizes_attempt own

end Acquisition

/-! ## Giving one key back, and looking at it -/

section Release

variable {backend : Backend} {key other : LockKey} {owner : Owner} {trace : List (Moment Tables)}

/-- What belongs to us afterwards belonged to us before. -/
theorem held_of_vain (own : mine owner.token)
    (vain : Changes (foreign mine) (ownAt mine backend key) s t) {n : Nat}
    (held : t.Held n other owner.token) : s.Held n other owner.token := by
  obtain ⟨record, found, same⟩ := held
  rcases vain.origin n other record found with before | notOurs
  · exact ⟨record, before, same⟩
  · exact absurd (same ▸ own) notOurs

theorem vain_release {answer : Except Error Bool}
    (performed : Routine.Performs (visited mine exposed faltering) s (backend.release key owner)
      trace answer t) : Changes (foreign mine) (ownAt mine backend key) s t :=
  vain_of_only (LockOperation.only_empties backend (.release key owner) nofun) performed

/-- A removal of a record of the owner that does not fail leaves none. -/
theorem not_held_of_remove (own : mine owner.token) {answer : Except Error Bool}
    (answered : visited mine exposed answers s (.remove backend key (some owner.token)) answer t) :
    ¬ t.Held backend.id key owner.token := by
  obtain ⟨u, answered, ended⟩ := answered
  obtain ⟨-, -, left⟩ := changes_remove answered
  have gone : ¬ u.Held backend.id key owner.token := by
    rintro ⟨record, found, same⟩
    exact left record found (by simp [same])
  rcases ended with rfl | ⟨-, others⟩
  · exact gone
  · exact fun held => gone ((others.held_iff own).mp held)

/-- After a release that does not fail the key does not belong to the owner. -/
theorem not_held_of_release (own : mine owner.token) {answer : Except Error Bool}
    (performed : Routine.Performs (visited mine exposed answers) s (backend.release key owner) trace
      answer t) : ¬ t.Held backend.id key owner.token := by
  have vain := vain_release (performed.mono visited_faltering)
  unfold Backend.release at performed
  obtain ⟨found?, u, rest, rfl, ⟨v, ⟨rfl, same⟩, ended⟩, performed⟩ :=
    Routine.performs_ask_bind_iff.mp performed
  by_cases held : s.Held backend.id key owner.token
  · obtain ⟨record, found, same⟩ := held
    simp only [found, same, if_true] at performed
    obtain ⟨answer, w, rest, rfl, removing, performed⟩ := Routine.performs_call_iff.mp performed
    obtain ⟨rfl, rfl, rfl⟩ := Routine.performs_done_iff.mp performed
    exact not_held_of_remove own removing
  · exact fun later => held (held_of_vain own vain later)

/-- A check that finds a key lost is right about that. -/
theorem not_held_of_isHeldBy (own : mine owner.token)
    (performed : Routine.Performs (visited mine exposed faltering) s (backend.isHeldBy key owner)
      trace (.ok false) t) : ¬ t.Held backend.id key owner.token := by
  obtain ⟨result, same, checking⟩ := Routine.performs_bind_done_iff.mp performed
  obtain ⟨evicted, u, first, second, rfl, evicting, performed⟩ :=
    Routine.performs_bind_iff.mp checking
  cases evicted with
  | error e =>
    obtain ⟨rfl, rfl, rfl⟩ := Routine.performs_done_iff.mp performed
    cases same
  | ok evicted? =>
    obtain ⟨found?, v, rest, rfl, reading, performed⟩ := Routine.performs_call_iff.mp performed
    obtain ⟨rfl, rfl, rfl⟩ := Routine.performs_done_iff.mp performed
    have vain : Changes (foreign mine) (ownAt mine backend key) u t :=
      vain_of_step reading (fun _ _ _ => id) fun _ _ _ => False.elim
    intro held
    obtain ⟨record, present, token⟩ := held_of_vain own vain held
    obtain ⟨w, ⟨rfl, -⟩ | ⟨⟨e, rfl⟩, -⟩, -⟩ := reading
    · simp [Except.map, present, token] at same
    · cases same

end Release

end Tables

end TransactionKit
