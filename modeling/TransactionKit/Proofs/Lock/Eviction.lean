import TransactionKit.Proofs.Lock.Operation

/-!
What an eviction can take away. An eviction reads a record, finds it stale, and asks for its
removal by naming its owner; between the read and the removal the other clients may do anything to
the table. The record that goes is stale, unless it was inserted in the meantime for the very owner
that was read: the owner is all that the removal compares. `Run.evictsFresh_iff` says when a fresh
record is lost, and `renewal` is a run in which that happens: its owner releases the key and
acquires it again while an eviction is under way. Records get older as time goes by, except for
those that are dated in a leap second: these are a second younger when the next day begins.
-/

namespace TransactionKit

theorem Record.age_mono {record : Record} (ordinary : record.created.isLeap = false)
    {earlier later : Int} (le : earlier ≤ later) : record.age earlier ≤ record.age later := by
  rw [Record.age, Record.age, Instant.since_eq_sub ordinary, Instant.since_eq_sub ordinary]
  omega

/-- A record from 12:00:60 gets younger at midnight. -/
example :
    let record : Record := ⟨⟨"k"⟩, "a", "", ⟨43259, 1000000000, by decide⟩⟩
    record.age 86399999999999 = 43140999999999 ∧ record.age 86400000000000 = 43140000000000 := by
  decide

/-- A stale record stays stale. -/
theorem Record.isStale_mono {record : Record} (ordinary : record.created.isLeap = false)
    {maxAge : Nat} {earlier later : Int} (le : earlier ≤ later)
    (stale : record.isStale maxAge earlier = true) : record.isStale maxAge later = true := by
  have older : record.age earlier ≤ record.age later := Record.age_mono ordinary le
  simp only [Record.isStale, decide_eq_true_eq] at stale ⊢
  omega

namespace Interleaving

variable {backend : Backend} {Client : Type} [DecidableEq Client]

/-- The calls of the operations are limited; those of other routines are not. -/
def PermitsAmongOthers (backend : Backend) :
    LockOperation ⊕ Routine Unit → List Exchange → Call → Prop
  | .inl operation => operation.Permits backend
  | .inr _ => fun _ _ => True

theorem conducts_withOthers (backend : Backend) (operation : LockOperation ⊕ Routine Unit) :
    Routine.Conducts (PermitsAmongOthers backend operation) (fun _ _ => True) []
      (backend.service.withOthers.routine operation) := by
  cases operation with
  | inl operation =>
      exact (LockOperation.conducts_routine backend operation).mono fun _ _ _ => trivial
  | inr routine => exact Routine.conducts_free [] routine

/-- The operation that a client is carrying out has read a record under a key. The client has only
looked at the clock since. -/
def ReadSince (client : Client) (operation : LockOperation) (key : LockKey) (seen : Record)
    (since events : List (Event backend.service.withOthers Client)) : Prop :=
  ∃ before past,
    events = since ++ .made client ⟨.read backend key, .ok (some seen)⟩ :: before ∧
      underway client before = some (Sum.inl operation, past) ∧
      ∀ event ∈ since, event.client? = some client →
        ∃ moment, event = .made client ⟨.now, moment⟩

/-- An eviction that has found a stale record has read it at some moment and has seen it stale at
another one. Whatever stands under the key now is that record or was inserted after the read. -/
theorem Run.readSince_of_foundStale
    {events : List (Event backend.service.withOthers Client)}
    {s : State backend.service.withOthers Client} {client : Client} {operation : LockOperation}
    {past : List Exchange} {key : LockKey} {seen : Record} (run : Run events s)
    (present : underway client events = some (Sum.inl operation, past))
    (found : FoundStale backend key seen past) :
    ∃ since, ReadSince client operation key seen since events ∧
      (∃ look ≤ s.time, seen.isStale backend.config.maxLockAge look = true) ∧
      ∀ record, s.table.read key = some record → record = seen ∨ InsertedIn record since := by
  obtain ⟨moment, before, rfl, stale⟩ := found
  obtain ⟨later, events, rfl, present, laterOthers⟩ := exists_made_of_underway present
  obtain ⟨middle, earlier, rfl, present, middleOthers⟩ := exists_made_of_underway present
  refine ⟨later ++ .made client ⟨.now, moment⟩ :: middle, ?_, ?_, ?_⟩
  · refine ⟨earlier, before, by simp, present, ?_⟩
    intro event member own
    rcases List.mem_append.mp member with member | member
    · exact absurd own (laterOthers event member)
    · rcases List.mem_cons.mp member with same | member
      · exact ⟨moment, same⟩
      · exact absurd own (middleOthers event member)
  · -- the clock was looked at after the read and has not gone back since
    obtain ⟨t, u, start, look, rest⟩ := run.split
    have le : moment ≤ s.time := by
      rw [← look.of_now]
      exact Int.le_trans look.time_le rest.time_le
    exact ⟨moment, le, stale⟩
  · intro record held
    rw [← List.cons_append, ← List.append_assoc] at run
    obtain ⟨t, u, start, read, rest⟩ := run.split
    rcases rest.kept_or_inserted held with kept | inserted
    · rw [read.of_read.2] at kept
      cases kept
      exact .inl rfl
    · exact .inr inserted

/-- When the removal of an eviction meets a record, the record goes exactly if it belongs to the
owner that was read. Either the record is stale, or it was inserted after the read, or it is dated
in a leap second, so that it can have been stale before. So the eviction takes only stale records
away exactly if there is no fresh record of one of the other two sorts that belongs to the owner
that was read. -/
theorem Run.evictsFresh_iff
    {events : List (Event backend.service.withOthers Client)}
    {s t : State backend.service.withOthers Client} {client : Client} {operation : LockOperation}
    {past : List Exchange} {key : LockKey} {target : Backend} {owner? : Option String}
    {removed : Bool} {record : Record} (run : Run events s)
    (present : underway client events = some (Sum.inl operation, past))
    (evicts : operation.Evicts key)
    (step : Step s (.made client ⟨.remove target key owner?, .ok removed⟩) t)
    (held : s.table.read key = some record) :
    ∃ seen since, ReadSince client operation key seen since events ∧
      (∃ look ≤ s.time, seen.isStale backend.config.maxLockAge look = true) ∧
      (seen.isStale backend.config.maxLockAge s.time = true ∨ seen.created.isLeap = true) ∧
      (t.table.read key = none ↔ record.owner = seen.owner) ∧
      (record.isStale backend.config.maxLockAge s.time = true ∨ InsertedIn record since ∨
        record.created.isLeap = true) ∧
      ((t.table.read key = none → record.isStale backend.config.maxLockAge s.time = true) ↔
        ¬ ((InsertedIn record since ∨ record.created.isLeap = true) ∧
          record.owner = seen.owner ∧
          record.isStale backend.config.maxLockAge s.time = false)) := by
  obtain ⟨started, past, same, permitted⟩ := run.call_permitted (conducts_withOthers backend) step
  rw [present] at same
  cases same
  obtain ⟨rfl, reason⟩ := permitted
  cases reason with
  | own owner => exact absurd evicts id
  | anyone owner lenient => exact absurd evicts id
  | @stale _ seen _ found =>
      obtain ⟨since, read, ⟨look, le, stale⟩, origin⟩ := run.readSince_of_foundStale present found
      have staleOrLeap : seen.isStale target.config.maxLockAge s.time = true ∨
          seen.created.isLeap = true := by
        by_cases leap : seen.created.isLeap = true
        · exact .inr leap
        · exact .inl (Record.isStale_mono (by simpa using leap) le stale)
      have goes := step.read_eq_none_iff held
      have goesIff : t.table.read key = none ↔ record.owner = seen.owner := by
        rw [goes]
        exact ⟨fun asked => (beq_iff_eq.mp asked).symm, fun same => beq_iff_eq.mpr same.symm⟩
      have sort : record.isStale target.config.maxLockAge s.time = true ∨
          InsertedIn record since ∨ record.created.isLeap = true := by
        rcases origin record held with rfl | inserted
        · exact staleOrLeap.imp_right .inr
        · exact .inr (.inl inserted)
      refine ⟨seen, since, read, ⟨look, le, stale⟩, staleOrLeap, goesIff, sort, ?_⟩
      constructor
      · rintro onlyStale ⟨-, sameOwner, fresh⟩
        rw [onlyStale (goesIff.mpr sameOwner)] at fresh
        cases fresh
      · intro noFresh gone
        rcases sort with stale | other
        · exact stale
        · by_contra fresh
          exact noFresh ⟨other, goesIff.mp gone, by simpa using fresh⟩

/-- The owner of a stale record releases its key and acquires it again after another client has
found the record stale and before that client removes it. -/
def renewal : List (Move (Backend.mk 0 {}).service.withOthers Nat) :=
  [.begin 0 (Sum.inl (.lock 1 ⟨"k"⟩ ⟨"a", "owner"⟩ (.after 0))), .proceed 0 none,
    .proceed 0 none, .proceed 0 none, .proceed 0 none, .proceed 0 none, .pass 300000000001,
    .begin 1 (Sum.inl (.evictStale ⟨"k"⟩)), .proceed 1 none, .proceed 1 none,
    .begin 0 (Sum.inl (.release ⟨"k"⟩ ⟨"a", "owner"⟩)), .proceed 0 none, .proceed 0 none,
    .proceed 0 none, .begin 0 (Sum.inl (.lock 1 ⟨"k"⟩ ⟨"a", "owner"⟩ (.after 0))),
    .proceed 0 none, .proceed 0 none, .proceed 0 none, .proceed 0 none, .proceed 0 none]

/-- Before the eviction in `renewal` removes the record of the key, a fresh one was inserted for the
owner that it had read. -/
theorem renewal_inserted_since_read : ∃ events s past record seen since,
    (State.initial 0).play? renewal = some (events, s) ∧
      underway 1 events = some (Sum.inl (.evictStale ⟨"k"⟩), past) ∧
      s.table.read ⟨"k"⟩ = some record ∧ ReadSince 1 (.evictStale ⟨"k"⟩) ⟨"k"⟩ seen since events ∧
      (∃ look ≤ s.time, seen.isStale 300000000000 look = true) ∧
      record.isStale 300000000000 s.time = false ∧ InsertedIn record since ∧
      record.owner = seen.owner := by
  obtain ⟨events, s, t, past, record, play, present, next, held, fresh, ordinary, gone⟩ :
      ∃ events s t past record, (State.initial 0).play? renewal = some (events, s) ∧
        underway 1 events = some (Sum.inl (.evictStale ⟨"k"⟩), past) ∧
        s.next? (.proceed 1 none) =
          some (.made 1 ⟨.remove ⟨0, {}⟩ ⟨"k"⟩ (some "a"), .ok true⟩, t) ∧
        s.table.read ⟨"k"⟩ = some record ∧ record.isStale 300000000000 s.time = false ∧
        record.created.isLeap = false ∧ t.table.read ⟨"k"⟩ = none :=
    ⟨_, _, _, _, ⟨⟨"k"⟩, "a", "owner", .ofNanos 300000000001⟩, rfl, rfl, rfl, rfl, rfl, rfl, rfl⟩
  obtain ⟨seen, since, read, stale, -, goes, sort, -⟩ :=
    Run.evictsFresh_iff (Run.of_play? play) present rfl (Step.of_next? next) held
  refine ⟨events, s, past, record, seen, since, play, present, held, read, stale, fresh, ?_,
    goes.mp gone⟩
  rcases sort with old | inserted | leap
  · cases fresh.symm.trans old
  · exact inserted
  · cases ordinary.symm.trans leap

/-- The eviction takes the new record away although it was inserted at this very moment. -/
theorem renewal_evicts_fresh : ∃ events s t past record,
    (State.initial 0).play? renewal = some (events, s) ∧
      underway 1 events = some (Sum.inl (.evictStale ⟨"k"⟩), past) ∧
      s.next? (.proceed 1 none) =
        some (.made 1 ⟨.remove ⟨0, {}⟩ ⟨"k"⟩ (some "a"), .ok true⟩, t) ∧
      s.table.read ⟨"k"⟩ = some record ∧ record.age s.time = 0 ∧ t.table.read ⟨"k"⟩ = none :=
  ⟨_, _, _, _, ⟨⟨"k"⟩, "a", "owner", .ofNanos 300000000001⟩, rfl, rfl, rfl, rfl, rfl, rfl⟩

end Interleaving

end TransactionKit
