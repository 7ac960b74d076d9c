import Mathlib.Logic.Function.Basic
import TransactionKit.Lock.RecordTable
import TransactionKit.Proofs.Routine.Conduct

/-!
Clients of one lock table whose calls interleave. Each client carries out one operation after the
other; an operation is a routine, and its calls are answered one at a time, in any order among the
clients. Any access to the table may fail, and then it has no effect. The clock never goes back.
Nothing forces a client to go on, so a client that crashed is one that makes no more steps.

A run is remembered as the list of its events, the latest first. What a client is in the middle of
can be read off the events (`underway`), and the conduct of the routines becomes a fact about
every run: `Run.call_permitted` and `Run.result_yielded`.
-/

namespace TransactionKit

/-- The result of an access to a table, or the fault that keeps it from happening. -/
def RecordTable.access {α : Type} (fault? : Option Error) (table : RecordTable)
    (result : α × RecordTable) : Except Error α × RecordTable :=
  match fault? with
  | some fault => (.error fault, table)
  | none => (.ok result.1, result.2)

/-- What a table answers at one moment. A fault makes an access fail without an effect. A lock
table has no connections, and sleeping does not change it. -/
def RecordTable.answer (now : Int) (fault? : Option Error) : Handler RecordTable
  | .request _ _, table => table.access fault? ((), table)
  | .create _ record, table => table.access fault? (table.create record)
  | .read _ key, table => table.access fault? (table.read key, table)
  | .remove _ key owner?, table => table.access fault? (table.remove key owner?)
  | .now, table => (now, table)
  | .sleep _, table => ((), table)
  | .connect _, table => (.error (.connection "no such store"), table)
  | .commit _, table => (.error (.connection "no such store"), table)
  | .rollback _, table => (.error (.connection "no such store"), table)
  | .close _, table => (.error (.connection "no such store"), table)

theorem RecordTable.OnePerKey.answer {table : RecordTable} (one : table.OnePerKey) (now : Int)
    (fault? : Option Error) (c : Call) : (RecordTable.answer now fault? c table).2.OnePerKey := by
  cases c with
  | create backend record =>
      cases fault? with
      | none => exact one.create record
      | some fault => exact one
  | remove backend key owner? =>
      cases fault? with
      | none => exact one.remove key owner?
      | some fault => exact one
  | request backend key => cases fault? <;> exact one
  | read backend key => cases fault? <;> exact one
  | now => exact one
  | sleep nanos => exact one
  | connect store => exact one
  | commit connection => exact one
  | rollback connection => exact one
  | close connection => exact one

/-- All that a call can do to what is read under a key: nothing, or the insertion of a record where
there was none, or the removal of one whose owner is not excluded. -/
theorem RecordTable.effect_answer (now : Int) (fault? : Option Error) (c : Call)
    (table : RecordTable) (key : LockKey) :
    (RecordTable.answer now fault? c table).2.read key = table.read key ∨
      (∃ target record, c = .create target record ∧
        (RecordTable.answer now fault? (.create target record) table).1 = .ok true ∧
        table.read key = none ∧
        (RecordTable.answer now fault? c table).2.read key = some record) ∨
      (∃ target owner? record, c = .remove target key owner? ∧
        (RecordTable.answer now fault? (.remove target key owner?) table).1 = .ok true ∧
        table.read key = some record ∧ owner?.all (· == record.owner) = true ∧
        (RecordTable.answer now fault? c table).2.read key = none) := by
  cases c with
  | create target record =>
      cases fault? with
      | some fault => exact .inl rfl
      | none =>
          have after := read_create table record key
          by_cases inserted : (table.create record).1 = true ∧ record.key = key
          · obtain ⟨happened, rfl⟩ := inserted
            rw [if_pos ⟨happened, rfl⟩] at after
            exact .inr (.inl ⟨target, record, rfl, congrArg Except.ok happened,
              create_fst_eq_true.mp happened, after⟩)
          · rw [if_neg inserted] at after
            exact .inl after
  | remove target other owner? =>
      cases fault? with
      | some fault => exact .inl rfl
      | none =>
          have after := read_remove table other owner? key
          by_cases removed : (table.remove other owner?).1 = true ∧ other = key
          · obtain ⟨happened, rfl⟩ := removed
            rw [if_pos ⟨happened, rfl⟩] at after
            obtain ⟨record, present, asked⟩ := remove_fst_eq_true.mp happened
            exact .inr (.inr ⟨target, owner?, record, rfl, congrArg Except.ok happened,
              present, asked, after⟩)
          · rw [if_neg removed] at after
            exact .inl after
  | request target other => cases fault? <;> exact .inl rfl
  | read target other => cases fault? <;> exact .inl rfl
  | now => exact .inl rfl
  | sleep nanos => exact .inl rfl
  | connect store => exact .inl rfl
  | commit connection => exact .inl rfl
  | rollback connection => exact .inl rfl
  | close connection => exact .inl rfl

/-- What clients can ask for: the operations, the answers they come to, and their routines. -/
structure Service where
  Operation : Type
  Answer : Operation → Type
  routine : (operation : Operation) → Routine (Answer operation)

/-- A service whose clients may also run any other routine against the table. -/
def Service.withOthers (service : Service) : Service where
  Operation := service.Operation ⊕ Routine Unit
  Answer := Sum.elim service.Answer fun _ => Unit
  routine
    | .inl operation => service.routine operation
    | .inr routine => routine

/-- An operation that is being carried out. -/
structure Task (service : Service) where
  operation : service.Operation
  rest : Routine (service.Answer operation)

namespace Interleaving

/-- The clock, the table, and the operation that each client is in the middle of. -/
structure State (service : Service) (Client : Type) where
  time : Int
  table : RecordTable
  task? : Client → Option (Task service)

/-- What can happen next. -/
inductive Event (service : Service) (Client : Type) where
  /-- A client begins an operation. -/
  | began (client : Client) (operation : service.Operation)
  /-- A client makes a call and is answered. -/
  | made (client : Client) (exchange : Exchange)
  /-- An operation of a client ends. -/
  | ended (client : Client) (operation : service.Operation) (answer : service.Answer operation)
  /-- Time passes. -/
  | passed (nanos : Nat)

/-- The client that an event belongs to. -/
def Event.client? {service : Service} {Client : Type} : Event service Client → Option Client
  | began client _ => some client
  | made client _ => some client
  | ended client _ _ => some client
  | passed _ => none

variable {service : Service} {Client : Type} [DecidableEq Client]

/-- The state with another task of a client. -/
def State.assign (s : State service Client) (client : Client) (task? : Option (Task service)) :
    State service Client :=
  { s with task? := Function.update s.task? client task? }

@[simp] theorem State.task?_assign_self (s : State service Client) (client : Client)
    (task? : Option (Task service)) : (s.assign client task?).task? client = task? :=
  Function.update_self ..

theorem State.task?_assign_of_ne {client other : Client} (differ : other ≠ client)
    (s : State service Client) (task? : Option (Task service)) :
    (s.assign client task?).task? other = s.task? other :=
  Function.update_of_ne differ ..

/-- The empty table, and no client does anything. -/
def State.initial (time : Int) : State service Client :=
  ⟨time, .empty, fun _ => none⟩

/-- One event. -/
inductive Step : State service Client → Event service Client → State service Client → Prop where
  | begin {s : State service Client} {client : Client} (operation : service.Operation)
      (idle : s.task? client = none) :
      Step s (.began client operation)
        (s.assign client (some ⟨operation, service.routine operation⟩))
  | make {s : State service Client} {client : Client} {operation : service.Operation} {c : Call}
      {next : c.Answer → Routine (service.Answer operation)} (fault? : Option Error)
      (working : s.task? client = some ⟨operation, .call c next⟩) :
      Step s (.made client ⟨c, (RecordTable.answer s.time fault? c s.table).1⟩)
        ({ s with table := (RecordTable.answer s.time fault? c s.table).2 }.assign client
          (some ⟨operation, next (RecordTable.answer s.time fault? c s.table).1⟩))
  | finish {s : State service Client} {client : Client} {operation : service.Operation}
      {answer : service.Answer operation}
      (finished : s.task? client = some ⟨operation, .done answer⟩) :
      Step s (.ended client operation answer) (s.assign client none)
  | pass {s : State service Client} (nanos : Nat) :
      Step s (.passed nanos) { s with time := s.time + nanos }

/-- Any number of events, the latest first. -/
inductive Steps :
    State service Client → List (Event service Client) → State service Client → Prop where
  | refl (s : State service Client) : Steps s [] s
  | step {s t u : State service Client} {events : List (Event service Client)}
      {event : Event service Client} (before : Steps s events t) (last : Step t event u) :
      Steps s (event :: events) u

/-- The events from some moment on at which the table was empty and no client did anything. -/
def Run (events : List (Event service Client)) (s : State service Client) : Prop :=
  ∃ time, Steps (.initial time) events s

/-- What a client is in the middle of, as the events tell: the operation, and the exchanges in it
so far, the latest first. -/
def underway (client : Client) :
    List (Event service Client) → Option (service.Operation × List Exchange)
  | [] => none
  | .began other operation :: earlier =>
    if other = client then some (operation, []) else underway client earlier
  | .made other exchange :: earlier =>
    if other = client then
      (underway client earlier).map fun (operation, past) => (operation, exchange :: past)
    else underway client earlier
  | .ended other _ _ :: earlier => if other = client then none else underway client earlier
  | .passed _ :: earlier => underway client earlier

/-! ## Composition of events -/

theorem Steps.append_iff {s u : State service Client}
    {later earlier : List (Event service Client)} :
    Steps s (later ++ earlier) u ↔ ∃ t, Steps s earlier t ∧ Steps t later u := by
  constructor
  · intro steps
    induction later generalizing u with
    | nil => exact ⟨u, steps, .refl u⟩
    | cons event later hypothesis =>
        cases steps with
        | step before last =>
            obtain ⟨t, first, second⟩ := hypothesis before
            exact ⟨t, first, .step second last⟩
  · rintro ⟨t, first, second⟩
    induction second with
    | refl => exact first
    | step before last hypothesis => exact .step hypothesis last

/-- The last event of a run, and the run before it. -/
theorem Run.last {event : Event service Client} {earlier : List (Event service Client)}
    {u : State service Client} (run : Run (event :: earlier) u) :
    ∃ s, Run earlier s ∧ Step s event u := by
  obtain ⟨time, steps⟩ := run
  cases steps with
  | step before last => exact ⟨_, ⟨time, before⟩, last⟩

/-- A run up to an event in the middle, the event, and what followed it. -/
theorem Run.split {later earlier : List (Event service Client)} {event : Event service Client}
    {u : State service Client} (run : Run (later ++ event :: earlier) u) :
    ∃ s t, Run earlier s ∧ Step s event t ∧ Steps t later u := by
  obtain ⟨time, steps⟩ := run
  obtain ⟨t, first, second⟩ := Steps.append_iff.mp steps
  cases first with
  | step before last => exact ⟨_, t, ⟨time, before⟩, last, second⟩

/-! ## Schedules -/

/-- What a schedule may ask for: that a client begins an operation, that it proceeds with its next
call (and meets a fault in it) or ends its operation, or that time passes. -/
inductive Move (service : Service) (Client : Type) where
  | begin (client : Client) (operation : service.Operation)
  | proceed (client : Client) (fault? : Option Error)
  | pass (nanos : Nat)

/-- The event that a move leads to, if it is possible. -/
def State.next? (s : State service Client) :
    Move service Client → Option (Event service Client × State service Client)
  | .begin client operation =>
    match s.task? client with
    | none =>
      some (.began client operation,
        s.assign client (some ⟨operation, service.routine operation⟩))
    | some _ => none
  | .proceed client fault? =>
    match s.task? client with
    | none => none
    | some ⟨operation, .done answer⟩ =>
      some (.ended client operation answer, s.assign client none)
    | some ⟨operation, .call c next⟩ =>
      some (.made client ⟨c, (RecordTable.answer s.time fault? c s.table).1⟩,
        { s with table := (RecordTable.answer s.time fault? c s.table).2 }.assign client
          (some ⟨operation, next (RecordTable.answer s.time fault? c s.table).1⟩))
    | some ⟨_, .starved⟩ => none
  | .pass nanos => some (.passed nanos, { s with time := s.time + nanos })

/-- The events of a schedule, the latest first, if all its moves are possible. -/
def State.play? (s : State service Client) :
    List (Move service Client) → Option (List (Event service Client) × State service Client)
  | [] => some ([], s)
  | move :: moves => do
    let (event, t) ← s.next? move
    let (events, u) ← t.play? moves
    return (events ++ [event], u)

theorem Step.of_next? {s t : State service Client} {move : Move service Client}
    {event : Event service Client} (next : s.next? move = some (event, t)) : Step s event t := by
  cases move with
  | begin client operation =>
      simp only [State.next?] at next
      split at next
      · rename_i idle
        cases next
        exact .begin operation idle
      · cases next
  | proceed client fault? =>
      simp only [State.next?] at next
      split at next
      · cases next
      · rename_i finished
        cases next
        exact .finish finished
      · rename_i working
        cases next
        exact .make fault? working
      · cases next
  | pass nanos =>
      cases next
      exact .pass nanos

theorem Steps.of_play? {s u : State service Client} {moves : List (Move service Client)}
    {events : List (Event service Client)} (play : s.play? moves = some (events, u)) :
    Steps s events u := by
  induction moves generalizing s events with
  | nil =>
      cases play
      exact .refl _
  | cons move moves hypothesis =>
      simp only [State.play?, Option.bind_eq_bind, Option.bind_eq_some_iff, Option.pure_def,
        Option.some.injEq, Prod.mk.injEq] at play
      obtain ⟨⟨event, t⟩, first, ⟨rest, v⟩, afterwards, rfl, rfl⟩ := play
      exact Steps.append_iff.mpr ⟨t, .step (.refl _) (.of_next? first), hypothesis afterwards⟩

/-- A schedule that starts from an empty table is a run. -/
theorem Run.of_play? {time : Int} {moves : List (Move service Client)}
    {events : List (Event service Client)} {s : State service Client}
    (play : (State.initial time).play? moves = some (events, s)) : Run events s :=
  ⟨time, .of_play? play⟩

/-! ## What every step keeps -/

theorem Step.time_le {s t : State service Client} {event : Event service Client}
    (step : Step s event t) : s.time ≤ t.time := by
  cases step with
  | begin operation idle => exact Int.le_refl _
  | make fault? working => exact Int.le_refl _
  | finish finished => exact Int.le_refl _
  | pass nanos => exact Int.le_add_of_nonneg_right (Int.natCast_nonneg nanos)

theorem Steps.time_le {s t : State service Client} {events : List (Event service Client)}
    (steps : Steps s events t) : s.time ≤ t.time := by
  induction steps with
  | refl => exact Int.le_refl _
  | step before last hypothesis => exact Int.le_trans hypothesis last.time_le

theorem Step.onePerKey {s t : State service Client} {event : Event service Client}
    (step : Step s event t) (one : s.table.OnePerKey) : t.table.OnePerKey := by
  cases step with
  | begin operation idle => exact one
  | make fault? working => exact one.answer s.time fault? _
  | finish finished => exact one
  | pass nanos => exact one

theorem Run.onePerKey {events : List (Event service Client)} {s : State service Client}
    (run : Run events s) : s.table.OnePerKey := by
  obtain ⟨time, steps⟩ := run
  induction steps with
  | refl => exact RecordTable.onePerKey_empty
  | step before last hypothesis => exact last.onePerKey hypothesis

/-! ## What one call does to the table -/

/-- A call is answered by the table as it is, and leaves the table that the next call finds. -/
theorem Step.answered {s t : State service Client} {client : Client} {exchange : Exchange}
    (step : Step s (.made client exchange) t) :
    ∃ fault?, RecordTable.answer s.time fault? exchange.call s.table =
      (exchange.answer, t.table) := by
  cases step with
  | make fault? working => exact ⟨fault?, rfl⟩

/-- An insertion finds its key vacant and leaves its record there. -/
theorem Step.of_inserted {s t : State service Client} {client : Client} {target : Backend}
    {record : Record} (step : Step s (.made client ⟨.create target record, .ok true⟩) t) :
    s.table.read record.key = none ∧ t.table.read record.key = some record := by
  obtain ⟨fault?, answered⟩ := step.answered
  cases fault? with
  | some fault => simp [RecordTable.answer, RecordTable.access] at answered
  | none =>
      simp only [RecordTable.answer, RecordTable.access, Prod.mk.injEq, Except.ok.injEq] at answered
      obtain ⟨inserted, same⟩ := answered
      refine ⟨RecordTable.create_fst_eq_true.mp inserted, ?_⟩
      rw [← same, RecordTable.read_create, if_pos ⟨inserted, rfl⟩]

/-- What is read is the record in the table. -/
theorem Step.of_read {s t : State service Client} {client : Client} {target : Backend}
    {key : LockKey} {record? : Option Record}
    (step : Step s (.made client ⟨.read target key, .ok record?⟩) t) :
    s.table.read key = record? ∧ t.table.read key = record? := by
  obtain ⟨fault?, answered⟩ := step.answered
  cases fault? with
  | some fault => simp [RecordTable.answer, RecordTable.access] at answered
  | none =>
      simp only [RecordTable.answer, RecordTable.access, Prod.mk.injEq, Except.ok.injEq] at answered
      obtain ⟨found, same⟩ := answered
      exact ⟨found, same ▸ found⟩

/-- The clock shows the time of the state. -/
theorem Step.of_now {s t : State service Client} {client : Client} {moment : Int}
    (step : Step s (.made client ⟨.now, moment⟩) t) : s.time = moment := by
  obtain ⟨fault?, answered⟩ := step.answered
  exact congrArg Prod.fst answered

/-- A removal that is carried out on a key with a record leaves it vacant exactly if it does not
ask for somebody else's. -/
theorem Step.read_eq_none_iff {s t : State service Client} {client : Client} {target : Backend}
    {key : LockKey} {owner? : Option String} {removed : Bool} {record : Record}
    (step : Step s (.made client ⟨.remove target key owner?, .ok removed⟩) t)
    (held : s.table.read key = some record) :
    t.table.read key = none ↔ owner?.all (· == record.owner) = true := by
  obtain ⟨fault?, answered⟩ := step.answered
  cases fault? with
  | some fault => simp [RecordTable.answer, RecordTable.access] at answered
  | none =>
      simp only [RecordTable.answer, RecordTable.access, Prod.mk.injEq] at answered
      rw [← answered.2, RecordTable.read_remove]
      constructor
      · intro gone
        by_cases happened : (s.table.remove key owner?).1 = true
        · obtain ⟨found, present, asked⟩ := RecordTable.remove_fst_eq_true.mp happened
          rw [held] at present
          cases present
          exact asked
        · rw [if_neg (fun both => happened both.1), held] at gone
          cases gone
      · intro asked
        exact if_pos ⟨RecordTable.remove_fst_eq_true.mpr ⟨record, held, asked⟩, rfl⟩

/-- A record only disappears by a removal that asks for nobody else's. -/
theorem Step.removed_of_lost {s t : State service Client} {event : Event service Client}
    {key : LockKey} {record : Record} (step : Step s event t)
    (held : s.table.read key = some record) (lost : t.table.read key ≠ some record) :
    ∃ client target owner?, event = .made client ⟨.remove target key owner?, .ok true⟩ ∧
      owner?.all (· == record.owner) = true := by
  cases step with
  | begin operation idle => exact absurd held lost
  | finish finished => exact absurd held lost
  | pass nanos => exact absurd held lost
  | @make client operation c next fault? working =>
      have effect := RecordTable.effect_answer s.time fault? c s.table key
      rcases effect with same | ⟨target, record, rfl, answered, vacant, after⟩ |
        ⟨target, owner?, found, rfl, answered, present, asked, after⟩
      · exact absurd (same.trans held) lost
      · rw [vacant] at held
        cases held
      · rw [held] at present
        cases present
        exact ⟨client, target, owner?, by rw [answered], asked⟩

/-- A record only appears by its insertion. -/
theorem Step.inserted_of_gained {s t : State service Client} {event : Event service Client}
    {key : LockKey} {record : Record} (step : Step s event t)
    (absent : s.table.read key ≠ some record) (held : t.table.read key = some record) :
    ∃ client target, event = .made client ⟨.create target record, .ok true⟩ := by
  cases step with
  | begin operation idle => exact absurd held absent
  | finish finished => exact absurd held absent
  | pass nanos => exact absurd held absent
  | @make client operation c next fault? working =>
      have effect := RecordTable.effect_answer s.time fault? c s.table key
      rcases effect with same | ⟨target, other, rfl, answered, vacant, after⟩ |
        ⟨target, owner?, found, rfl, answered, present, asked, after⟩
      · exact absurd (same.symm.trans held) absent
      · cases after.symm.trans held
        exact ⟨client, target, by rw [answered]⟩
      · cases after.symm.trans held

/-- Whether a record is inserted by one of the events. -/
def InsertedIn (record : Record) (events : List (Event service Client)) : Prop :=
  ∃ client target, .made client ⟨.create target record, .ok true⟩ ∈ events

/-- A record under a key is the one that stood there before the events, or one of them inserted
it. -/
theorem Steps.kept_or_inserted {s t : State service Client} {events : List (Event service Client)}
    {key : LockKey} {record : Record} (steps : Steps s events t)
    (held : t.table.read key = some record) :
    s.table.read key = some record ∨ InsertedIn record events := by
  induction steps with
  | refl => exact .inl held
  | @step middle u events event before last hypothesis =>
      by_cases kept : middle.table.read key = some record
      · rcases hypothesis kept with original | ⟨client, target, member⟩
        · exact .inl original
        · exact .inr ⟨client, target, List.mem_cons_of_mem _ member⟩
      · obtain ⟨client, target, rfl⟩ := last.inserted_of_gained kept held
        exact .inr ⟨client, target, List.mem_cons_self⟩

/-! ## Conduct in a run -/

section Conduct

variable {permits : service.Operation → List Exchange → Call → Prop}
variable {yields : (operation : service.Operation) →
  List Exchange → service.Answer operation → Prop}

/-- Whether a task is what the events of a client lead to: the same operation is underway, and
what is left of it keeps to its conduct after the exchanges so far. -/
def Accounted (permits : service.Operation → List Exchange → Call → Prop)
    (yields : (operation : service.Operation) →
      List Exchange → service.Answer operation → Prop)
    (events : List (Event service Client)) (client : Client) : Option (Task service) → Prop
  | none => underway client events = none
  | some task => ∃ past, underway client events = some (task.operation, past) ∧
      Routine.Conducts (permits task.operation) (yields task.operation) past task.rest

/-- An event of one client leaves the accounts of the others as they are. -/
theorem Accounted.of_other {client other : Client} {event : Event service Client}
    {events : List (Event service Client)} {task? : Option (Task service)}
    (belongs : event.client? = some client) (differ : other ≠ client)
    (accounted : Accounted permits yields events other task?) :
    Accounted permits yields (event :: events) other task? := by
  have same : underway other (event :: events) = underway other events := by
    cases event with
    | began actor operation =>
        cases belongs
        exact if_neg (Ne.symm differ)
    | made actor exchange =>
        cases belongs
        exact if_neg (Ne.symm differ)
    | ended actor operation answer =>
        cases belongs
        exact if_neg (Ne.symm differ)
    | passed nanos => rfl
  cases task? with
  | none => exact same.trans accounted
  | some task =>
      obtain ⟨past, present, conduct⟩ := accounted
      exact ⟨past, same.trans present, conduct⟩

theorem Step.accounted
    (conducts : ∀ operation,
      Routine.Conducts (permits operation) (yields operation) [] (service.routine operation))
    {s t : State service Client} {event : Event service Client}
    {events : List (Event service Client)} (step : Step s event t)
    (accounted : ∀ client, Accounted permits yields events client (s.task? client))
    (client : Client) : Accounted permits yields (event :: events) client (t.task? client) := by
  cases step with
  | @begin actor operation idle =>
      by_cases same : client = actor
      · subst same
        rw [State.task?_assign_self]
        exact ⟨[], if_pos rfl, conducts operation⟩
      · rw [State.task?_assign_of_ne same]
        exact (accounted client).of_other rfl same
  | @make actor operation c next fault? working =>
      by_cases same : client = actor
      · subst same
        rw [State.task?_assign_self]
        have before := accounted client
        rw [working] at before
        obtain ⟨past, present, conduct⟩ := before
        refine ⟨_ :: past, ?_, conduct.2 _⟩
        simp [underway, present]
      · rw [State.task?_assign_of_ne same]
        exact (accounted client).of_other rfl same
  | @finish actor operation answer finished =>
      by_cases same : client = actor
      · subst same
        rw [State.task?_assign_self]
        exact if_pos rfl
      · rw [State.task?_assign_of_ne same]
        exact (accounted client).of_other rfl same
  | pass nanos =>
      have before := accounted client
      cases working : s.task? client with
      | none =>
          rw [working] at before
          exact before
      | some task =>
          rw [working] at before
          exact before

/-- In every run each client keeps to the conduct of the operation it is in the middle of. -/
theorem Run.accounted
    (conducts : ∀ operation,
      Routine.Conducts (permits operation) (yields operation) [] (service.routine operation))
    {events : List (Event service Client)} {s : State service Client} (run : Run events s) :
    ∀ client, Accounted permits yields events client (s.task? client) := by
  obtain ⟨time, steps⟩ := run
  induction steps with
  | refl => exact fun client => rfl
  | step before last hypothesis => exact last.accounted conducts hypothesis

/-- Every call in a run is permitted after the exchanges of its operation. -/
theorem Run.call_permitted
    (conducts : ∀ operation,
      Routine.Conducts (permits operation) (yields operation) [] (service.routine operation))
    {events : List (Event service Client)} {s t : State service Client} {client : Client}
    {exchange : Exchange} (run : Run events s) (step : Step s (.made client exchange) t) :
    ∃ operation past, underway client events = some (operation, past) ∧
      permits operation past exchange.call := by
  cases step with
  | @make _ operation c next fault? working =>
      have account := run.accounted conducts client
      rw [working] at account
      obtain ⟨past, present, conduct⟩ := account
      exact ⟨operation, past, present, conduct.1⟩

/-- Every answer that an operation ends with in a run is one that its exchanges yield. -/
theorem Run.result_yielded
    (conducts : ∀ operation,
      Routine.Conducts (permits operation) (yields operation) [] (service.routine operation))
    {events : List (Event service Client)} {s t : State service Client} {client : Client}
    {operation : service.Operation} {answer : service.Answer operation} (run : Run events s)
    (step : Step s (.ended client operation answer) t) :
    ∃ past, underway client events = some (operation, past) ∧ yields operation past answer := by
  cases step with
  | finish finished =>
      have account := run.accounted conducts client
      rw [finished] at account
      exact account

end Conduct

/-! ## Finding exchanges among the events -/

/-- What an event has to do with what a client is in the middle of: it is nothing to the client, or
it is the beginning, or the latest exchange. -/
theorem underway_cons {client : Client} {operation : service.Operation} {past : List Exchange}
    {event : Event service Client} {events : List (Event service Client)}
    (present : underway client (event :: events) = some (operation, past)) :
    (event.client? ≠ some client ∧ underway client events = some (operation, past)) ∨
      (event = .began client operation ∧ past = []) ∨
      ∃ exchange before, event = .made client exchange ∧ past = exchange :: before ∧
        underway client events = some (operation, before) := by
  cases event with
  | began actor begun =>
      by_cases same : actor = client
      · subst same
        rw [underway, if_pos rfl] at present
        cases present
        exact .inr (.inl ⟨rfl, rfl⟩)
      · rw [underway, if_neg same] at present
        exact .inl ⟨by simpa [Event.client?] using same, present⟩
  | made actor exchange =>
      by_cases same : actor = client
      · subst same
        simp only [underway, if_true, Option.map_eq_some_iff] at present
        obtain ⟨⟨started, before⟩, kept, same⟩ := present
        cases same
        exact .inr (.inr ⟨exchange, before, rfl, rfl, kept⟩)
      · rw [underway, if_neg same] at present
        exact .inl ⟨by simpa [Event.client?] using same, present⟩
  | ended actor finished answer =>
      by_cases same : actor = client
      · rw [underway, if_pos same] at present
        cases present
      · rw [underway, if_neg same] at present
        exact .inl ⟨by simpa [Event.client?] using same, present⟩
  | passed nanos => exact .inl ⟨by simp [Event.client?], present⟩

/-- The latest exchange of an operation underway stands among the events, with nothing of the same
client after it. -/
theorem exists_made_of_underway {client : Client} {operation : service.Operation}
    {exchange : Exchange} {past : List Exchange} {events : List (Event service Client)}
    (present : underway client events = some (operation, exchange :: past)) :
    ∃ later earlier, events = later ++ .made client exchange :: earlier ∧
      underway client earlier = some (operation, past) ∧
      ∀ event ∈ later, event.client? ≠ some client := by
  induction events with
  | nil => simp [underway] at present
  | cons event events hypothesis =>
      rcases underway_cons present with ⟨other, kept⟩ | ⟨-, started⟩ | ⟨_, _, rfl, same, kept⟩
      · obtain ⟨later, earlier, split, started, others⟩ := hypothesis kept
        refine ⟨event :: later, earlier, by rw [split, List.cons_append], started, ?_⟩
        intro entry member
        rcases List.mem_cons.mp member with rfl | member
        · exact other
        · exact others entry member
      · cases started
      · cases same
        exact ⟨[], events, rfl, kept, by simp⟩

end Interleaving

end TransactionKit
