import TransactionKit.Proofs.Lock.Operation

/-!
Mutual exclusion. Clients of one backend acquire, release, check and evict keys; their calls
interleave in any order and accesses fail at any time. Where releases respect the owner, a key is
acquired only by the insertion of a record, and a record goes away in two ways only: by a release
called for its owner, or by an eviction that has seen a stale record of that owner. So of two
acquisitions of one key by different owners, the record of the earlier one was taken away in one of
the two ways before the record of the later one was inserted (`Run.mutualExclusion`).

The order of two acquisitions is the order of their insertions. The answers may reach the clients
in another order, since a client can be slow to notice that its call has succeeded.
-/

namespace TransactionKit

namespace Interleaving

variable {backend : Backend} {Client : Type} [DecidableEq Client]

/-- An operation is a release of a record's key for the record's owner. -/
def ReleasedFor (operation : LockOperation) (record : Record) : Prop :=
  ∃ owner : Owner, operation = .release record.key owner ∧ owner.token = record.owner

/-- An operation evicts a record's key, and its exchanges end with a stale record of that key and
of the record's owner. -/
def EvictedAfter (backend : Backend) (operation : LockOperation) (past : List Exchange)
    (record : Record) : Prop :=
  operation.Evicts record.key ∧ ∃ seen : Record, seen.key = record.key ∧
    seen.owner = record.owner ∧ FoundStale backend record.key seen past

/-- An event takes a record away after earlier events, in one of the two ways: a release called for
its owner, or an eviction that has seen a stale record of its owner. -/
def TakesAway (record : Record) (event : Event backend.service Client)
    (earlier : List (Event backend.service Client)) : Prop :=
  ∃ client operation past,
    event = .made client ⟨.remove backend record.key (some record.owner), .ok true⟩ ∧
      underway client earlier = some (operation, past) ∧
      (ReleasedFor operation record ∨ EvictedAfter backend operation past record)

/-- The latest thing that a client did among the events was to insert a record by an operation it
has been carrying out since before; `before` are the events before the insertion. -/
def InsertedBy (client : Client) (operation : LockOperation) (record : Record)
    (before events : List (Event backend.service Client)) : Prop :=
  ∃ later past,
    events = later ++ .made client ⟨.create backend record, .ok true⟩ :: before ∧
      underway client before = some (operation, past) ∧
      ∀ event ∈ later, event.client? ≠ some client

/-- Among the events a client has acquired a key for an owner: the acquisition has ended well, and
it was the acquisition itself that inserted a record of the key for the owner. -/
def Acquired (client : Client) (key : LockKey) (owner : Owner) (record : Record)
    (before events : List (Event backend.service Client)) : Prop :=
  record.key = key ∧ record.owner = owner.token ∧
    ∃ later earlier rounds timeout,
      events = later ++ .ended client (.lock rounds key owner timeout) (.ok ()) :: earlier ∧
        InsertedBy client (.lock rounds key owner timeout) record before earlier

/-- After the insertion of a record that `before` precedes, and before the end of `events`, the
record was taken away. -/
def TakenAwaySince (client : Client) (record : Record)
    (before events : List (Event backend.service Client)) : Prop :=
  ∃ later event between,
    events = later ++ event :: (between ++
        .made client ⟨.create backend record, .ok true⟩ :: before) ∧
      TakesAway record event (between ++
        .made client ⟨.create backend record, .ok true⟩ :: before)

/-- What mutual exclusion means for the events of a run and the state they lead to. -/
structure MutualExclusion (events : List (Event backend.service Client))
    (s : State backend.service Client) : Prop where
  /-- No key has two records. -/
  onePerKey : s.table.OnePerKey
  /-- An acquisition that ends well has itself inserted a record for its owner. -/
  acquired : ∀ later earlier client rounds key owner timeout,
    events = later ++ .ended client (.lock rounds key owner timeout) (.ok ()) :: earlier →
      ∃ record before, record.key = key ∧ record.owner = owner.token ∧
        InsertedBy client (.lock rounds key owner timeout) record before earlier
  /-- Whatever happens next, a record only goes away in one of the two ways. -/
  takenAway : ∀ event t key record, Step s event t → s.table.read key = some record →
    t.table.read key ≠ some record → record.key = key ∧ TakesAway record event events
  /-- Of two acquisitions of a key by different owners, one has its record inserted first, and it
  is taken away in one of the two ways before the other inserts its own. -/
  excluded : ∀ key first firstOwner firstRecord beforeFirst second secondOwner secondRecord
      beforeSecond,
    Acquired first key firstOwner firstRecord beforeFirst events →
    Acquired second key secondOwner secondRecord beforeSecond events →
    firstOwner.token ≠ secondOwner.token →
      TakenAwaySince first firstRecord beforeFirst beforeSecond ∨
        TakenAwaySince second secondRecord beforeSecond beforeFirst

/-- Every record that an operation has read stands under the key that it read. -/
theorem Run.key_of_foundStale {events : List (Event backend.service Client)}
    {s : State backend.service Client} {client : Client} {operation : LockOperation}
    {past : List Exchange} {key : LockKey} {seen : Record} (run : Run events s)
    (present : underway client events = some (operation, past))
    (found : FoundStale backend key seen past) : seen.key = key := by
  obtain ⟨moment, before, rfl, stale⟩ := found
  obtain ⟨later, events, rfl, present, others⟩ := exists_made_of_underway present
  obtain ⟨middle, earlier, rfl, present, others⟩ := exists_made_of_underway present
  rw [← List.cons_append, ← List.append_assoc] at run
  obtain ⟨t, u, start, step, rest⟩ := run.split
  exact RecordTable.key_of_read step.of_read.1

/-- Where releases respect the owner, whatever makes a record disappear takes it away in one of
the two ways. -/
theorem Run.takesAway_of_lost (strict : backend.config.ignoreLockOwner = false)
    {events : List (Event backend.service Client)} {s t : State backend.service Client}
    {event : Event backend.service Client} {key : LockKey} {record : Record}
    (run : Run events s) (step : Step s event t) (held : s.table.read key = some record)
    (lost : t.table.read key ≠ some record) :
    record.key = key ∧ TakesAway record event events := by
  have own : record.key = key := RecordTable.key_of_read held
  subst own
  obtain ⟨client, target, owner?, rfl, asked⟩ := step.removed_of_lost held lost
  obtain ⟨operation, past, present, permitted⟩ :=
    run.call_permitted (LockOperation.conducts_routine backend) step
  obtain ⟨rfl, reason⟩ := permitted
  refine ⟨rfl, client, operation, past, ?_⟩
  cases reason with
  | own owner =>
      have same : owner.token = record.owner := by simpa using asked
      exact ⟨by rw [same], present, .inl ⟨owner, rfl, same⟩⟩
  | anyone owner lenient =>
      rw [strict] at lenient
      cases lenient
  | @stale _ seen evicts found =>
      have same : seen.owner = record.owner := by simpa using asked
      have ownKey := run.key_of_foundStale present found
      exact ⟨by rw [same], present, .inr ⟨evicts, seen, ownKey, same, found⟩⟩

/-- A record that was inserted is still there, or it was taken away since. -/
theorem Run.held_or_takenAway (strict : backend.config.ignoreLockOwner = false)
    {later before : List (Event backend.service Client)} {s : State backend.service Client}
    {client : Client} {record : Record}
    (run : Run (later ++ .made client ⟨.create backend record, .ok true⟩ :: before) s) :
    s.table.read record.key = some record ∨
      TakenAwaySince client record before
        (later ++ .made client ⟨.create backend record, .ok true⟩ :: before) := by
  induction later generalizing s with
  | nil =>
      obtain ⟨t, start, step⟩ := run.last
      exact .inl step.of_inserted.2
  | cons event later hypothesis =>
      obtain ⟨t, run, step⟩ := run.last
      rcases hypothesis run with held | ⟨after, taking, between, split, takes⟩
      · by_cases kept : s.table.read record.key = some record
        · exact .inl kept
        · have takes := (run.takesAway_of_lost strict step held kept).2
          exact .inr ⟨[], event, later, rfl, takes⟩
      · exact .inr ⟨event :: after, taking, between,
          by rw [List.cons_append, split, List.cons_append], takes⟩

/-- A key is inserted twice only if its first record was taken away in between. -/
theorem Run.takenAway_between (strict : backend.config.ignoreLockOwner = false)
    {events before beforeNext : List (Event backend.service Client)}
    {s : State backend.service Client} {client next : Client} {record nextRecord : Record}
    (run : Run events s) (sameKey : record.key = nextRecord.key)
    (inserted : .made next ⟨.create backend nextRecord, .ok true⟩ :: beforeNext <:+ events)
    (earlier : .made client ⟨.create backend record, .ok true⟩ :: before <:+ beforeNext) :
    TakenAwaySince client record before beforeNext := by
  obtain ⟨later, rfl⟩ := inserted
  obtain ⟨between, rfl⟩ := earlier
  obtain ⟨t, u, start, step, rest⟩ := run.split
  rcases start.held_or_takenAway strict with held | taken
  · rw [sameKey, step.of_inserted.1] at held
    cases held
  · exact taken

/-- The insertion of an acquisition is one of the events. -/
theorem Acquired.isSuffix {client : Client} {key : LockKey} {owner : Owner} {record : Record}
    {before events : List (Event backend.service Client)}
    (acquired : Acquired client key owner record before events) :
    .made client ⟨.create backend record, .ok true⟩ :: before <:+ events := by
  obtain ⟨-, -, later, earlier, rounds, timeout, rfl, between, past, rfl, -⟩ := acquired
  refine ⟨later ++ .ended client (.lock rounds key owner timeout) (.ok ()) :: between, ?_⟩
  simp

/-- Mutual exclusion holds in every run on a backend that respects the owner. -/
theorem Run.mutualExclusion (strict : backend.config.ignoreLockOwner = false)
    {events : List (Event backend.service Client)} {s : State backend.service Client}
    (run : Run events s) : MutualExclusion events s where
  onePerKey := run.onePerKey
  acquired := by
    intro later earlier client rounds key owner timeout split
    subst split
    obtain ⟨t, u, start, step, rest⟩ := run.split
    obtain ⟨past, present, yielded⟩ :=
      start.result_yielded (LockOperation.conducts_routine backend) step
    obtain ⟨moment, before, rfl⟩ := yielded rfl
    obtain ⟨between, first, rfl, begun, others⟩ := exists_made_of_underway present
    exact ⟨Record.of key owner moment, first, rfl, rfl, between, before, rfl, begun, others⟩
  takenAway := by
    intro event t key record step held lost
    exact run.takesAway_of_lost strict step held lost
  excluded := by
    intro key first firstOwner firstRecord beforeFirst second secondOwner secondRecord
      beforeSecond firstAcquired secondAcquired differ
    have sameKey : firstRecord.key = secondRecord.key :=
      firstAcquired.1.trans secondAcquired.1.symm
    -- both insertions are among the events, so one of them comes first
    rcases List.suffix_or_suffix_of_suffix firstAcquired.isSuffix secondAcquired.isSuffix with
      firstEarlier | secondEarlier
    · rcases List.suffix_cons_iff.mp firstEarlier with same | firstEarlier
      · cases same
        exact absurd (firstAcquired.2.1.symm.trans secondAcquired.2.1) differ
      · exact .inl (run.takenAway_between strict sameKey secondAcquired.isSuffix firstEarlier)
    · rcases List.suffix_cons_iff.mp secondEarlier with same | secondEarlier
      · cases same
        exact absurd (firstAcquired.2.1.symm.trans secondAcquired.2.1) differ
      · exact .inr
          (run.takenAway_between strict sameKey.symm firstAcquired.isSuffix secondEarlier)

/-- One client acquires a key and leaves it; when the record is stale, another client evicts it and
acquires the key for its own owner. -/
def takeover : List (Move (Backend.mk 0 {}).service Nat) :=
  [.begin 0 (.lock 1 ⟨"k"⟩ ⟨"a", "first"⟩ (.after 0)), .proceed 0 none, .proceed 0 none,
    .proceed 0 none, .proceed 0 none, .proceed 0 none, .pass 300000000001,
    .begin 1 (.lock 2 ⟨"k"⟩ ⟨"b", "second"⟩ (.after 0)), .proceed 1 none, .proceed 1 none,
    .proceed 1 none, .proceed 1 none, .proceed 1 none, .proceed 1 none, .proceed 1 none,
    .proceed 1 none, .proceed 1 none, .proceed 1 none]

theorem takeover_mutualExclusion :
    (Backend.mk 0 {}).config.ignoreLockOwner = false ∧ ∃ events s,
      (State.initial 0).play? takeover = some (events, s) ∧
        s.table.records = [⟨⟨"k"⟩, "b", "second", .ofNanos 300000000001⟩] ∧
        MutualExclusion events s := by
  refine ⟨rfl, _, _, rfl, by decide, ?_⟩
  have run := Run.of_play? (rfl : (State.initial 0).play? takeover = some _)
  exact Run.mutualExclusion rfl run

end Interleaving

end TransactionKit
