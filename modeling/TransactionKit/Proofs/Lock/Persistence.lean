import TransactionKit.Proofs.Lock.Operation
import TransactionKit.Proofs.Lock.Storage

/-!
Operations on a lock table in a database compared with the same operations on one in memory. While a
routine makes its calls the clock goes on and others take steps on the table (`Surroundings`). A
record is only inserted with a time that the clock has shown (`DatedByClock`), so where the clock
shows whole milliseconds nothing is lost by the rounding, the table in the database stays the image
of the one in memory, and every call gets the same answer: `LockStore.handle_stored`. What both
stores do with the same steps and with the same operations is put together in
`Database.store_refines`. Leap seconds, in which others may date a record, get lost in a database:
`Database.store_loses_leapSeconds`.
-/

namespace TransactionKit

/-! ## Times of records -/

/-- A record is only inserted with a time that the clock has shown. -/
def DatedByClock (past : List Exchange) (c : Call) : Prop :=
  ∀ target record, c = .create target record →
    ∃ now, record.created = .ofNanos now ∧ (⟨.now, now⟩ : Exchange) ∈ past

namespace LockOperation

/-- Whether an operation may insert a record. -/
def Inserts : LockOperation → Prop
  | lock .. => True
  | release .. | isHeld _ | isHeldBy .. | evictStale _ => False

variable {backend : Backend} {key : LockKey} {owner : Owner} {past : List Exchange}

/-- The conduct of an operation that inserts nothing. -/
theorem datedByClock_of_conducts {α : Type} {r : Routine α} {yields : List Exchange → α → Prop}
    {operation : LockOperation} (quiet : ¬ operation.Inserts)
    (conduct : Routine.Conducts (Permits backend operation) yields past r) :
    Routine.Conducts DatedByClock (fun _ _ => True) past r := by
  refine (conduct.permit fun past c permitted => ?_).mono fun _ _ _ => trivial
  rintro target record rfl
  obtain ⟨-, rounds, key, owner, timeout, moment, rfl, -⟩ := permitted
  exact absurd trivial quiet

theorem datedByClock_evictStale :
    Routine.Conducts DatedByClock (fun _ _ => True) past (backend.evictStale key) :=
  have evicts : (evictStale key).Evicts key := rfl
  datedByClock_of_conducts id (conducts_evictStale evicts)

theorem datedByClock_attempt :
    Routine.Conducts DatedByClock (fun _ _ => True) past (backend.attempt key owner) := by
  unfold Backend.attempt
  refine Routine.Conducts.ask_bind (by rintro target record ⟨⟩) fun moment => ?_
  have dated : DatedByClock (⟨.now, moment⟩ :: past)
      (.create backend (Record.of key owner moment)) := by
    rintro target record ⟨⟩
    exact ⟨moment, rfl, List.mem_cons_self⟩
  refine Routine.Conducts.ask_bind dated fun answer => ?_
  match answer with
  | .error e => trivial
  | .ok true => trivial
  | .ok false =>
    refine datedByClock_evictStale.bind fun past evicted _ => ?_
    match evicted with
    | .error e => trivial
    | .ok none => trivial
    | .ok (some record) => trivial

theorem datedByClock_poll (deadline : Deadline) (rounds : Nat) :
    Routine.Conducts DatedByClock (fun _ _ => True) past
      (backend.poll key owner deadline rounds) := by
  induction rounds generalizing past with
  | zero => trivial
  | succ rounds hypothesis =>
    refine datedByClock_attempt.bind fun past attempt _ => ?_
    cases attempt with
    | acquired => trivial
    | evicted => exact hypothesis
    | refused =>
      have expiring : Routine.Conducts (Permits backend (evictStale key)) _ past _ :=
        conducts_expired deadline
      refine (datedByClock_of_conducts id expiring).bind fun past expired _ => ?_
      cases expired with
      | true => trivial
      | false =>
        have pausing : Routine.Conducts (Permits backend (evictStale key)) _ past _ :=
          conducts_pause deadline backend.config.pollInterval
        exact (datedByClock_of_conducts id pausing).bind fun past _ _ => hypothesis

/-- Every operation takes the time of a record from the clock. -/
theorem datedByClock_routine (backend : Backend) (operation : LockOperation) :
    Routine.Conducts DatedByClock (fun _ _ => True) [] (operation.routine backend) := by
  cases operation with
  | lock rounds key owner timeout =>
    refine Routine.Conducts.ask_bind (by rintro target record ⟨⟩) fun answer => ?_
    match answer, timeout with
    | .error e, _ => trivial
    | .ok (), .never => exact datedByClock_poll _ rounds
    | .ok (), .after nanos =>
      exact ⟨by rintro target record ⟨⟩, fun now => datedByClock_poll _ rounds⟩
  | release key owner =>
    exact datedByClock_of_conducts id (conducts_routine backend (.release key owner))
  | isHeld key => exact datedByClock_of_conducts id (conducts_routine backend (.isHeld key))
  | isHeldBy key owner =>
    exact datedByClock_of_conducts id (conducts_routine backend (.isHeldBy key owner))
  | evictStale key => exact datedByClock_of_conducts id (conducts_routine backend (.evictStale key))

end LockOperation

/-! ## Operations on a store -/

/-- What goes on around calls: what the clock shows at each of them, and the steps that others take
on the table just before it. -/
structure Surroundings where
  time : Nat → Int
  others : Nat → List Access

/-- The clock shows only times of some sort, and others bring no other times into the table. -/
structure Surroundings.Timed (times : Instant → Prop) (around : Surroundings) : Prop where
  time : ∀ n, times (.ofNanos (around.time n))
  others : ∀ n, ∀ access ∈ around.others n, access.Timed times

namespace LockStore

variable {τ : Type}

/-- What a store answers at one moment. A lock table has no connections, and sleeping does not
change it. -/
def answer (store : LockStore τ) (now : Int) : Handler τ
  | .request _ _, table => (.ok (), table)
  | .create _ record, table => store.create table record
  | .read _ key, table => (store.read table key, table)
  | .remove _ key owner?, table => store.remove table key owner?
  | .now, table => (now, table)
  | .sleep _, table => ((), table)
  | .connect _, table => (.error (.connection "no such store"), table)
  | .commit _, table => (.error (.connection "no such store"), table)
  | .rollback _, table => (.error (.connection "no such store"), table)
  | .close _, table => (.error (.connection "no such store"), table)

/-- A table in memory answers as it does among clients when nothing fails. -/
theorem answer_inMemory (now : Int) (c : Call) (table : RecordTable) :
    RecordTable.store.answer now c table = RecordTable.answer now none c table := by
  cases c <;> rfl

/-- Answer the calls to a store, each after what others do, and count them. -/
def handle (store : LockStore τ) (around : Surroundings) : Handler (Nat × τ)
  | c, (n, table) =>
    let met := (store.performAll table (around.others n)).2
    let answered := store.answer (around.time n) c met
    (answered.1, n + 1, answered.2)

/-- Carry out operations on a store one after the other: what each comes to, if it does not starve,
and the number of calls and the table after all of them. -/
def serve (store : LockStore τ) (backend : Backend) (around : Surroundings) :
    List LockOperation → Nat × τ →
      List (Σ operation : LockOperation, Option operation.Answer) × Nat × τ
  | [], s => ([], s)
  | operation :: rest, s =>
    let ran := (operation.routine backend).run (store.handle around) s
    let later := store.serve backend around rest ran.2
    (⟨operation, ran.1⟩ :: later.1, later.2)

variable {table : RecordTable} {times : Instant → Prop} {around : Surroundings} {c : Call}

theorem orderly_answer (orderly : table.Orderly times) (now : Int)
    (timed : ∀ target record, c = .create target record → times record.created) :
    (RecordTable.store.answer now c table).2.Orderly times := by
  cases c with
  | create backend record => exact orderly.create (timed backend record rfl)
  | remove backend key owner? => exact orderly.remove key owner?
  | _ => exact orderly

/-- The clock is answered with what it shows. -/
theorem eq_of_answer_now {moment now : Int}
    (shown : (⟨.now, moment⟩ : Exchange) = ⟨c, (RecordTable.store.answer now c table).1⟩) :
    moment = now := by
  injection shown with same shown
  subst same
  exact eq_of_heq shown

/-- Where times are whole milliseconds a record that is read is the one that was inserted. -/
theorem read_stored (orderly : table.Orderly Calendar.CoversWhole) (key : LockKey) :
    table.stored.read key = .ok (table.read key) := by
  rw [RecordTable.stored_read orderly.onePerKey]
  cases found : table.read key with
  | none => rfl
  | some record =>
    have whole := orderly.timed record (RecordTable.mem_of_read found)
    rw [Option.mapM_some, Record.readBack_of_ordinary whole.1, Record.toWholeMs_eq whole]
    rfl

/-- A call is answered the same, and leaves the image of what it leaves of the table. -/
theorem answer_stored (orderly : table.Orderly Calendar.CoversWhole) (now : Int) (c : Call) :
    Database.store.answer now c table.stored =
      ((RecordTable.store.answer now c table).1,
        (RecordTable.store.answer now c table).2.stored) := by
  cases c with
  | create backend record => exact RecordTable.stored_create table record
  | read backend key => exact congrArg (·, table.stored) (read_stored orderly key)
  | remove backend key owner? => exact RecordTable.stored_remove orderly.onePerKey key owner?
  | _ => rfl

/-- The image of a table, with the calls counted. -/
def image (s : Nat × RecordTable) : Nat × Database :=
  (s.1, s.2.stored)

/-- The clock has shown only whole milliseconds, and the table has no other times in it. -/
structure WholeSoFar (past : List Exchange) (s : Nat × RecordTable) : Prop where
  shown : ∀ now, (⟨.now, now⟩ : Exchange) ∈ past → Calendar.CoversWhole (.ofNanos now)
  orderly : s.2.Orderly Calendar.CoversWhole

/-- What one call does on both stores. -/
theorem handle_stored (whole : around.Timed Calendar.CoversWhole) (past : List Exchange) (c : Call)
    (s : Nat × RecordTable) (wholeSoFar : WholeSoFar past s) (dated : DatedByClock past c) :
    Database.store.handle around c (image s) =
        ((RecordTable.store.handle around c s).1,
          image (RecordTable.store.handle around c s).2) ∧
      WholeSoFar (⟨c, (RecordTable.store.handle around c s).1⟩ :: past)
        (RecordTable.store.handle around c s).2 := by
  obtain ⟨n, table⟩ := s
  obtain ⟨shown, orderly⟩ := wholeSoFar
  have met := orderly_performAll orderly (whole.others n)
  constructor
  · have performed := performAll_stored orderly.onePerKey (around.others n)
    simp only [handle, image, performed, answer_stored met]
  · constructor
    · intro moment member
      rcases List.mem_cons.mp member with same | member
      · rw [eq_of_answer_now same]
        exact whole.time n
      · exact shown moment member
    · apply orderly_answer met
      intro target record creates
      obtain ⟨now, created, seen⟩ := dated target record creates
      exact created ▸ shown now seen

/-- Operations come to the same on both stores, and the tables correspond at the end. -/
theorem serve_stored (backend : Backend) (whole : around.Timed Calendar.CoversWhole)
    (operations : List LockOperation) (s : Nat × RecordTable)
    (orderly : s.2.Orderly Calendar.CoversWhole) :
    Database.store.serve backend around operations (image s) =
      ((RecordTable.store.serve backend around operations s).1,
        image (RecordTable.store.serve backend around operations s).2) := by
  induction operations generalizing s with
  | nil => rfl
  | cons operation rest ih =>
    have conduct := LockOperation.datedByClock_routine backend operation
    have start : WholeSoFar [] s := ⟨fun _ member => (List.not_mem_nil member).elim, orderly⟩
    obtain ⟨ran, _, after⟩ := conduct.run_image (handle_stored whole) start
    have later := ih ((operation.routine backend).run (RecordTable.store.handle around) s).2
      after.orderly
    simp only [serve, ran, later]

end LockStore

/-! ## The two stores -/

/-- A database whose lock table has no rows. -/
def Database.vacant : Database :=
  .readable (some [])

example : Database.empty.prepare = .ok Database.vacant := rfl

theorem RecordTable.stored_empty : RecordTable.empty.stored = Database.vacant :=
  rfl

/-- A database does what a table in memory does, starting from no records on both sides. Any steps
are answered the same, except for what rows keep of a record that is read; if no record is dated in
a leap second, that is the record with its time rounded down to whole milliseconds. Any operations
come to the same and leave corresponding tables, whatever others do to the tables meanwhile, as long
as all times are whole milliseconds outside leap seconds. -/
theorem Database.store_refines :
    (∀ accesses : List Access,
      (Database.store.performAll .vacant accesses).1 =
          (RecordTable.store.performAll .empty accesses).1.map (Except.bind · Reply.readBack) ∧
        (Database.store.performAll .vacant accesses).2 =
          (RecordTable.store.performAll .empty accesses).2.stored ∧
        ((∀ access ∈ accesses, access.Timed Calendar.CoversOrdinary) →
          (Database.store.performAll .vacant accesses).1 =
            (RecordTable.store.performAll .empty accesses).1.map
              (Except.map Reply.toWholeMs))) ∧
    ∀ (backend : Backend) (around : Surroundings) (operations : List LockOperation),
      around.Timed Calendar.CoversWhole →
        (Database.store.serve backend around operations (0, .vacant)).1 =
            (RecordTable.store.serve backend around operations (0, .empty)).1 ∧
          (Database.store.serve backend around operations (0, .vacant)).2.2 =
            (RecordTable.store.serve backend around operations (0, .empty)).2.2.stored := by
  constructor
  · intro accesses
    rw [← RecordTable.stored_empty,
      LockStore.performAll_stored RecordTable.onePerKey_empty accesses]
    exact ⟨rfl, rfl, LockStore.performAll_ordinary RecordTable.orderly_empty⟩
  · intro backend around operations whole
    have served := LockStore.serve_stored backend whole operations (0, .empty)
      RecordTable.orderly_empty
    rw [LockStore.image, RecordTable.stored_empty] at served
    rw [served]
    exact ⟨rfl, rfl⟩

/-- Somebody leaves a record behind and, four calls later, it is too old. -/
def takeover : Surroundings where
  time n := if n < 4 then 0 else 400000000000
  others n := if n = 0 then [.create ⟨⟨"k"⟩, "a", "gone", .ofNanos 0⟩] else []

theorem timed_takeover : takeover.Timed Calendar.CoversWhole where
  time n := by
    simp only [takeover]
    split <;> decide +kernel
  others n := by
    simp only [takeover]
    split
    · decide +kernel
    · exact fun access member => by cases member

/-- A record from just before 1970 is read back a little older, and an abandoned key is taken
over. -/
theorem Database.store_refines_takeover :
    (∃ accesses : List Access, (∀ access ∈ accesses, access.Timed Calendar.CoversOrdinary) ∧
      accesses = [.create ⟨⟨"k"⟩, "a", "", .ofNanos (-1)⟩, .create ⟨⟨"k"⟩, "b", "", .ofNanos 0⟩,
        .read ⟨"k"⟩, .remove ⟨"k"⟩ (some "b"), .remove ⟨"k"⟩ (some "a"), .count] ∧
      (Database.store.performAll .vacant accesses).1 = [.ok (.changed true), .ok (.changed false),
        .ok (.found (some ⟨⟨"k"⟩, "a", "", .ofNanos (-1000000)⟩)), .ok (.changed false),
        .ok (.changed true), .ok (.counted 0)]) ∧
    takeover.Timed Calendar.CoversWhole ∧
      (Database.store.serve ⟨0, {}⟩ takeover [.lock 2 ⟨"k"⟩ ⟨"b", ""⟩ (.after 0),
          .isHeldBy ⟨"k"⟩ ⟨"b", ""⟩, .release ⟨"k"⟩ ⟨"a", ""⟩] (0, .vacant)).1 =
        [⟨.lock 2 ⟨"k"⟩ ⟨"b", ""⟩ (.after 0), some (.ok ())⟩,
          ⟨.isHeldBy ⟨"k"⟩ ⟨"b", ""⟩, some (.ok true)⟩,
          ⟨.release ⟨"k"⟩ ⟨"a", ""⟩, some (.ok false)⟩] := by
  refine ⟨⟨_, ?_, rfl, ?_⟩, timed_takeover, ?_⟩
  · decide +kernel
  · rw [(store_refines.1 _).2.2 (by decide +kernel)]
    rfl
  · rw [(store_refines.2 _ takeover _ timed_takeover).1]
    rfl

/-- At 12:01:10 somebody has left a record that is dated at 12:00:60.5. -/
def afterLeapSecond : Surroundings where
  time _ := 43270000000000
  others n :=
    if n = 0 then [.create ⟨⟨"k"⟩, "a", "gone", ⟨43259, 1500000000, by decide⟩⟩] else []

/-- The leap second at the end of 2016 is read back as the first second of 2017, and the one at the
end of the calendar not at all. A record from another leap second is 10.5 seconds old in memory when
it is 9.5 seconds old in a database, so it is evicted from one of them only. All these times are
whole milliseconds on days of the calendar. -/
theorem Database.store_loses_leapSeconds :
    (∃ first last : Record, Calendar.Covers first.created ∧ Calendar.Covers last.created ∧
      first.toWholeMs = first ∧ last.toWholeMs = last ∧
      first.created = ⟨1483228799, 1500000000, by decide⟩ ∧ last.created.ms = 8210266876800500 ∧
      (RecordTable.store.performAll .empty
          [.create first, .read first.key, .create last, .read last.key]).1 =
        [.ok (.changed true), .ok (.found (some first)), .ok (.changed true),
          .ok (.found (some last))] ∧
      (Database.store.performAll .vacant
          [.create first, .read first.key, .create last, .read last.key]).1 =
        [.ok (.changed true),
          .ok (.found (some { first with created := ⟨1483228800, 500000000, by decide⟩ })),
          .ok (.changed true),
          .error (.storage "lock last has invalid created time 8210266876800500")]) ∧
    ∃ record : Record,
      (RecordTable.store.serve ⟨0, { maxLockAgeMs := 10000 }⟩ afterLeapSecond [.evictStale ⟨"k"⟩]
          (0, .empty)).1 = [⟨.evictStale ⟨"k"⟩, some (.ok (some record))⟩] ∧
        (Database.store.serve ⟨0, { maxLockAgeMs := 10000 }⟩ afterLeapSecond [.evictStale ⟨"k"⟩]
          (0, .vacant)).1 = [⟨.evictStale ⟨"k"⟩, some (.ok none)⟩] := by
  refine ⟨⟨⟨⟨"first"⟩, "a", "", ⟨1483228799, 1500000000, by decide⟩⟩,
    ⟨⟨"last"⟩, "a", "", ⟨8210266876799, 1500000000, by decide⟩⟩, ?_⟩,
    ⟨⟨"k"⟩, "a", "gone", ⟨43259, 1500000000, by decide⟩⟩, ?_⟩
  · decide +kernel
  · exact ⟨rfl, rfl⟩

end TransactionKit
