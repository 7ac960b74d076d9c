import Mathlib.Data.List.Nodup
import TransactionKit.Lock.Database
import TransactionKit.Lock.RecordTable

/-!
The two ways to keep a lock table compared. A table in memory has an image in a database,
`RecordTable.stored`: one row for each record, in the order of insertion, with the time in whole
milliseconds. Every step on a table commutes with taking its image (`RecordTable.stored_create`,
`RecordTable.stored_read`, `RecordTable.stored_remove`), so a sequence of steps on a new database is
answered as on an empty table in memory, up to what a row keeps of a record (`Record.readBack`):
`LockStore.performAll_stored`. That is the record with its time rounded down, but rows do not keep
leap seconds: these become the next second.
-/

namespace TransactionKit

/-! ## Times -/

namespace Calendar

/-- A moment lies on a day of the calendar. -/
def Covers (moment : Instant) : Prop :=
  Date.minDayNumber ≤ moment.day ∧ moment.day ≤ Date.maxDayNumber

instance (moment : Instant) : Decidable (Covers moment) :=
  inferInstanceAs (Decidable (_ ∧ _))

/-- A moment lies on a day of the calendar and in no leap second. -/
def CoversOrdinary (moment : Instant) : Prop :=
  Covers moment ∧ moment.isLeap = false

instance (moment : Instant) : Decidable (CoversOrdinary moment) :=
  inferInstanceAs (Decidable (_ ∧ _))

/-- A moment lies on a day of the calendar, in no leap second, and is a whole number of
milliseconds. -/
def CoversWhole (moment : Instant) : Prop :=
  CoversOrdinary moment ∧ LockConfig.nanosPerMs ∣ moment.nanos

instance (moment : Instant) : Decidable (CoversWhole moment) :=
  inferInstanceAs (Decidable (_ ∧ _))

end Calendar

namespace Instant

/-- The moment rounded down to whole milliseconds. -/
def toWholeMs (m : Instant) : Instant :=
  ⟨m.second, m.nanos / LockConfig.nanosPerMs * LockConfig.nanosPerMs, by
    have := m.nanos_lt
    have := Nat.div_mul_le_self m.nanos LockConfig.nanosPerMs
    omega⟩

/-- The moment with the next second in the place of a leap second. -/
def carried (m : Instant) : Instant :=
  ⟨m.second + (m.nanos / 1000000000 : Nat), m.nanos % 1000000000, by omega⟩

theorem carried_eq {m : Instant} (ordinary : m.isLeap = false) : m.carried = m := by
  obtain ⟨second, nanos, bound⟩ := m
  simp only [isLeap, decide_eq_false_iff_not] at ordinary
  simp only [carried, mk.injEq]
  omega

theorem isLeap_toWholeMs (m : Instant) : m.toWholeMs.isLeap = m.isLeap := by
  rw [isLeap, isLeap, decide_eq_decide]
  simp only [toWholeMs, LockConfig.nanosPerMs]
  omega

/-- Milliseconds know nothing of leap seconds. -/
theorem ofMs_ms (m : Instant) : ofMs m.ms = m.toWholeMs.carried := by
  simp only [ofMs, ms, toWholeMs, carried, LockConfig.nanosPerMs, mk.injEq]
  omega

/-- A number of milliseconds is on a day of the calendar exactly if its moment is. -/
theorem isDated_iff (ms : Int) : Row.isDated ms = true ↔ Calendar.Covers (ofMs ms) := by
  have same : ms / Row.msPerDay = (ofMs ms).day := by
    simp only [Row.msPerDay, ofMs, day]
    omega
  rw [Row.isDated, Calendar.Covers, same, Bool.and_eq_true, decide_eq_true_eq, decide_eq_true_eq]

end Instant

namespace Record

/-- Whether a removal of a key, which may ask for an owner, is about a record. -/
def isAsked (key : LockKey) (owner? : Option String) (record : Record) : Bool :=
  record.key == key && owner?.all (· == record.owner)

/-- The record with its time rounded down to whole milliseconds. -/
def toWholeMs (record : Record) : Record :=
  { record with created := record.created.toWholeMs }

/-- What can be read of a record that was written to a row: the record with its time rounded down,
and with the next second for a leap second, unless that is after the last day of the calendar. -/
def readBack (record : Record) : Except Error Record :=
  let created := record.created.toWholeMs.carried
  if Calendar.Covers created then .ok { record with created }
  else .error (.storage ("lock " ++ record.key.text ++ " has invalid created time " ++
    toString record.created.ms))

theorem readBack_of_ordinary {record : Record} (ordinary : Calendar.CoversOrdinary record.created) :
    record.readBack = .ok record.toWholeMs := by
  have carried : record.created.toWholeMs.carried = record.created.toWholeMs :=
    Instant.carried_eq ((Instant.isLeap_toWholeMs _).trans ordinary.2)
  rw [readBack, carried, if_pos]
  · rfl
  · exact ordinary.1

theorem toWholeMs_eq {record : Record} (whole : Calendar.CoversWhole record.created) :
    record.toWholeMs = record := by
  simp only [toWholeMs, Instant.toWholeMs, Nat.div_mul_cancel whole.2]

end Record

/-- What is read from the row of a record. -/
theorem Row.record_ofRecord (record : Record) : (ofRecord record).record = record.readBack := by
  simp only [Row.record, ofRecord, Cell.asInteger, Cell.asText, bind, Except.bind,
    Instant.isDated_iff, Instant.ofMs_ms]
  rfl

/-! ## The image of a table -/

namespace RecordTable

/-- The image of a table in a database. -/
def stored (table : RecordTable) : Database :=
  .readable (some (table.records.map Row.ofRecord).reverse)

/-- At most one record for each key, each made at a time of some sort. -/
structure Orderly (times : Instant → Prop) (table : RecordTable) : Prop where
  onePerKey : table.OnePerKey
  timed : ∀ record ∈ table.records, times record.created

variable {table : RecordTable} {times : Instant → Prop} {key : LockKey} {record : Record}

theorem orderly_empty : empty.Orderly times :=
  ⟨onePerKey_empty, by simp [empty]⟩

theorem mem_of_read (found : table.read key = some record) : record ∈ table.records :=
  List.mem_of_find?_eq_some found

/-- The record that is read under a key is the only one with it. -/
theorem OnePerKey.eq_of_read (one : table.OnePerKey) (found : table.read key = some record)
    {other : Record} (member : other ∈ table.records) (same : other.key = key) : other = record :=
  List.inj_on_of_nodup_map one member (mem_of_read found) (same.trans (key_of_read found).symm)

theorem read_eq_none_iff : table.read key = none ↔ ∀ record ∈ table.records, record.key ≠ key := by
  simp [RecordTable.read, List.find?_eq_none]

/-- In a table with one record for each key the members are what is read. -/
theorem OnePerKey.read_eq_some_iff (one : table.OnePerKey) :
    table.read key = some record ↔ record ∈ table.records ∧ record.key = key := by
  constructor
  · intro found
    exact ⟨mem_of_read found, key_of_read found⟩
  · rintro ⟨member, same⟩
    cases found : table.read key with
    | none => exact absurd same (read_eq_none_iff.mp found record member)
    | some other => rw [one.eq_of_read found member same]

/-- The order of the records does not matter then. -/
theorem OnePerKey.read_reverse (one : table.OnePerKey) (key : LockKey) :
    RecordTable.read ⟨table.records.reverse⟩ key = table.read key := by
  have reversed : OnePerKey ⟨table.records.reverse⟩ := by
    unfold OnePerKey
    rw [List.map_reverse]
    exact List.nodup_reverse.mpr one
  ext record
  rw [reversed.read_eq_some_iff, one.read_eq_some_iff, List.mem_reverse]

/-- A removal that is about no record leaves the table alone. -/
theorem filter_of_spared {owner? : Option String}
    (spared : ∀ record ∈ table.records, record.isAsked key owner? = false) :
    (table.records.any (Record.isAsked key owner?),
      RecordTable.mk (table.records.filter fun record => !record.isAsked key owner?)) =
        (false, table) := by
  have kept : table.records.filter (fun record => !record.isAsked key owner?) = table.records :=
    List.filter_eq_self.mpr fun record member => by simp [spared record member]
  have noneAsked : table.records.any (Record.isAsked key owner?) = false := by
    simpa using spared
  rw [kept, noneAsked]

/-- A removal takes away the records that it is about. -/
theorem OnePerKey.remove_eq (one : table.OnePerKey) (key : LockKey) (owner? : Option String) :
    table.remove key owner? = (table.records.any (Record.isAsked key owner?),
      ⟨table.records.filter fun record => !record.isAsked key owner?⟩) := by
  unfold RecordTable.remove
  cases found : table.read key with
  | none =>
    refine (filter_of_spared fun record member => ?_).symm
    rw [Record.isAsked, beq_eq_false_iff_ne.mpr (read_eq_none_iff.mp found record member),
      Bool.false_and]
  | some record =>
    have member := mem_of_read found
    have asked : ∀ other ∈ table.records, other.isAsked key owner? =
        (other.key == key && owner?.all (· == record.owner)) := by
      intro other present
      by_cases same : other.key = key
      · rw [one.eq_of_read found present same, Record.isAsked]
      · rw [Record.isAsked, beq_eq_false_iff_ne.mpr same, Bool.false_and, Bool.false_and]
    by_cases held : owner?.all (· == record.owner) = true
    · have isAsked : record.isAsked key owner? = true := by
        rw [asked record member, held, Bool.and_true, beq_iff_eq]
        exact key_of_read found
      have someAsked : table.records.any (Record.isAsked key owner?) = true :=
        List.any_eq_true.mpr ⟨record, member, isAsked⟩
      have kept : table.records.filter (fun other => !other.isAsked key owner?) =
          table.records.filter fun other => other.key != key := by
        refine List.filter_congr fun other present => ?_
        rw [asked other present, held, Bool.and_true]
        rfl
      simp only [held, if_true, someAsked, kept]
    · rw [filter_of_spared fun other present => ?_]
      · exact if_neg held
      · rw [asked other present, Bool.eq_false_iff.mpr held, Bool.and_false]

theorem Orderly.create (orderly : table.Orderly times) (timed : times record.created) :
    (table.create record).2.Orderly times := by
  refine ⟨orderly.onePerKey.create record, ?_⟩
  cases found : table.read record.key with
  | some other =>
    rw [create_of_occupied found]
    exact orderly.timed
  | none =>
    rw [create_of_vacant found]
    intro other member
    rcases List.mem_cons.mp member with rfl | member
    · exact timed
    · exact orderly.timed other member

theorem Orderly.remove (orderly : table.Orderly times) (key : LockKey) (owner? : Option String) :
    (table.remove key owner?).2.Orderly times := by
  refine ⟨orderly.onePerKey.remove key owner?, ?_⟩
  unfold RecordTable.remove
  split
  · exact orderly.timed
  · split
    · exact fun other member => orderly.timed other (List.mem_filter.mp member).1
    · exact orderly.timed

/-! ## Steps on the image -/

theorem stored_size (table : RecordTable) : table.stored.size = .ok table.size := by
  simp [stored, Database.size, Database.rows, Except.map, RecordTable.size]

/-- Rows are told apart by their keys as records are. -/
theorem beq_key_ofRecord (record : Record) (key : LockKey) :
    ((Row.ofRecord record).key == key.text) = (record.key == key) := by
  obtain ⟨⟨text⟩, owner, description, created⟩ := record
  obtain ⟨other⟩ := key
  rw [Bool.eq_iff_iff, beq_iff_eq, beq_iff_eq, LockKey.mk.injEq]
  rfl

theorem stored_create (table : RecordTable) (record : Record) :
    table.stored.create record = (.ok (table.create record).1, (table.create record).2.stored) := by
  have taken : (table.records.map Row.ofRecord).reverse.any
      (fun row => row.key == (Row.ofRecord record).key) = (table.read record.key).isSome := by
    rw [List.any_reverse, List.any_map, RecordTable.read, List.isSome_find?]
    exact congrArg table.records.any (funext fun other => beq_key_ofRecord other record.key)
  simp only [Database.create, Database.update, stored, Database.rows, Database.insertRow, taken]
  cases found : table.read record.key with
  | none =>
    rw [create_of_vacant found]
    simp
  | some other =>
    rw [create_of_occupied found]
    simp

theorem stored_read (one : table.OnePerKey) (key : LockKey) :
    table.stored.read key = (table.read key).mapM Record.readBack := by
  have row : (table.records.map Row.ofRecord).reverse.find? (fun row => row.key == key.text) =
      (table.read key).map Row.ofRecord := by
    rw [← List.map_reverse, List.find?_map, ← one.read_reverse key, RecordTable.read]
    have same : (fun row : Row => row.key == key.text) ∘ Row.ofRecord =
        fun record => record.key == key := funext fun record => beq_key_ofRecord record key
    rw [same]
  simp only [Database.read, stored, Database.rows, bind, Except.bind, row]
  cases found : table.read key with
  | none => rfl
  | some record =>
    simp only [Option.map_some, Row.record_ofRecord]
    rfl

theorem stored_remove (one : table.OnePerKey) (key : LockKey) (owner? : Option String) :
    table.stored.remove key owner? =
      (.ok (table.remove key owner?).1, (table.remove key owner?).2.stored) := by
  have asked : (fun record : Record => (Row.ofRecord record).key == key.text &&
      owner?.all fun owner => (Row.ofRecord record).owner == .text owner) =
        Record.isAsked key owner? := by
    funext record
    rw [beq_key_ofRecord, Record.isAsked]
    cases owner? with
    | none => rfl
    | some owner =>
      have same : ((Row.ofRecord record).owner == .text owner) = (owner == record.owner) := by
        rw [Bool.eq_iff_iff, beq_iff_eq, beq_iff_eq]
        exact ⟨fun same => (Cell.text.inj same).symm, fun same => congrArg Cell.text same.symm⟩
      simp only [Option.all_some, same]
  rw [one.remove_eq]
  simp only [Database.remove, Database.update, stored, Database.rows, Database.deleteRows,
    List.any_reverse, List.any_map, List.filter_reverse, List.filter_map, Function.comp_def]
  rw [← asked]

end RecordTable

/-! ## Sequences of steps -/

/-- A way to keep lock tables: its steps, and what they leave of a table. -/
structure LockStore (τ : Type) where
  create : τ → Record → Except Error Bool × τ
  read : τ → LockKey → Except Error (Option Record)
  remove : τ → LockKey → Option String → Except Error Bool × τ
  size : τ → Except Error Nat

/-- Tables kept in memory. No step fails. -/
def RecordTable.store : LockStore RecordTable where
  create table record := (.ok (table.create record).1, (table.create record).2)
  read table key := .ok (table.read key)
  remove table key owner? := (.ok (table.remove key owner?).1, (table.remove key owner?).2)
  size table := .ok table.size

/-- Tables kept in a database. -/
def Database.store : LockStore Database where
  create := Database.create
  read := Database.read
  remove := Database.remove
  size := Database.size

/-- One step on a lock table, as a caller asks for it. -/
inductive Access where
  | create (record : Record)
  | read (key : LockKey)
  | remove (key : LockKey) (owner? : Option String)
  | count
deriving DecidableEq, Repr, Inhabited

/-- A step brings only times of some sort into a table. -/
def Access.Timed (times : Instant → Prop) : Access → Prop
  | create record => times record.created
  | read _ | remove .. | count => True

instance (times : Instant → Prop) [DecidablePred times] (access : Access) :
    Decidable (access.Timed times) := by
  cases access <;> unfold Access.Timed <;> infer_instance

/-- What a step is answered. -/
inductive Reply where
  /-- Whether a record was inserted or removed. -/
  | changed (happened : Bool)
  | found (record? : Option Record)
  | counted (n : Nat)
deriving DecidableEq, Repr, Inhabited

namespace Reply

/-- The answer with the time of a record that was read rounded down to whole milliseconds. -/
def toWholeMs : Reply → Reply
  | found record? => found (record?.map Record.toWholeMs)
  | changed happened => changed happened
  | counted n => counted n

/-- The answer with what can be read of a record. -/
def readBack : Reply → Except Error Reply
  | found record? => (record?.mapM Record.readBack).map found
  | changed happened => .ok (changed happened)
  | counted n => .ok (counted n)

end Reply

namespace LockStore

variable {τ : Type}

/-- Take one step. -/
def perform (store : LockStore τ) (table : τ) : Access → Except Error Reply × τ
  | .create record =>
    ((store.create table record).1.map .changed, (store.create table record).2)
  | .read key => ((store.read table key).map .found, table)
  | .remove key owner? =>
    ((store.remove table key owner?).1.map .changed, (store.remove table key owner?).2)
  | .count => ((store.size table).map .counted, table)

/-- Take steps one after the other: what they are answered, and the table after all of them. -/
def performAll (store : LockStore τ) (table : τ) : List Access → List (Except Error Reply) × τ
  | [] => ([], table)
  | access :: rest =>
    let performed := store.perform table access
    let later := store.performAll performed.2 rest
    (performed.1 :: later.1, later.2)

variable {table : RecordTable} {times : Instant → Prop}

theorem onePerKey_perform (one : table.OnePerKey) (access : Access) :
    (RecordTable.store.perform table access).2.OnePerKey := by
  cases access with
  | create record => exact one.create record
  | remove key owner? => exact one.remove key owner?
  | read key => exact one
  | count => exact one

theorem orderly_perform (orderly : table.Orderly times) {access : Access}
    (timed : access.Timed times) :
    (RecordTable.store.perform table access).2.Orderly times := by
  cases access with
  | create record => exact orderly.create timed
  | remove key owner? => exact orderly.remove key owner?
  | read key => exact orderly
  | count => exact orderly

theorem orderly_performAll (orderly : table.Orderly times) {accesses : List Access}
    (timed : ∀ access ∈ accesses, access.Timed times) :
    (RecordTable.store.performAll table accesses).2.Orderly times := by
  induction accesses generalizing table with
  | nil => exact orderly
  | cons access rest ih =>
    obtain ⟨first, others⟩ := List.forall_mem_cons.mp timed
    exact ih (orderly_perform orderly first) others

/-- A step on the image of a table leaves the image of what the step leaves of the table, and is
answered the same but for what rows keep. -/
theorem perform_stored (one : table.OnePerKey) (access : Access) :
    Database.store.perform table.stored access =
      ((RecordTable.store.perform table access).1.bind Reply.readBack,
        (RecordTable.store.perform table access).2.stored) := by
  cases access with
  | create record => simp only [perform, Database.store, RecordTable.stored_create]; rfl
  | remove key owner? => simp only [perform, Database.store, RecordTable.stored_remove one]; rfl
  | read key => simp only [perform, Database.store, RecordTable.stored_read one]; rfl
  | count => simp only [perform, Database.store, RecordTable.stored_size]; rfl

theorem performAll_stored (one : table.OnePerKey) (accesses : List Access) :
    Database.store.performAll table.stored accesses =
      ((RecordTable.store.performAll table accesses).1.map (Except.bind · Reply.readBack),
        (RecordTable.store.performAll table accesses).2.stored) := by
  induction accesses generalizing table with
  | nil => rfl
  | cons access rest ih =>
    simp only [performAll, perform_stored one, ih (onePerKey_perform one access), List.map_cons]

/-- Rows keep everything but the fractions of milliseconds of a record from no leap second. -/
theorem perform_ordinary (orderly : table.Orderly Calendar.CoversOrdinary) (access : Access) :
    (RecordTable.store.perform table access).1.bind Reply.readBack =
      (RecordTable.store.perform table access).1.map Reply.toWholeMs := by
  cases access with
  | read key =>
    simp only [perform, RecordTable.store]
    cases found : table.read key with
    | none => rfl
    | some record =>
      have ordinary := orderly.timed record (RecordTable.mem_of_read found)
      simp [Except.map, Except.bind, Reply.readBack, Reply.toWholeMs,
        record.readBack_of_ordinary ordinary]
  | create record => rfl
  | remove key owner? => rfl
  | count => rfl

theorem performAll_ordinary (orderly : table.Orderly Calendar.CoversOrdinary)
    {accesses : List Access} (timed : ∀ access ∈ accesses, access.Timed Calendar.CoversOrdinary) :
    (RecordTable.store.performAll table accesses).1.map (Except.bind · Reply.readBack) =
      (RecordTable.store.performAll table accesses).1.map (Except.map Reply.toWholeMs) := by
  induction accesses generalizing table with
  | nil => rfl
  | cons access rest ih =>
    obtain ⟨first, others⟩ := List.forall_mem_cons.mp timed
    simp only [performAll, List.map_cons, perform_ordinary orderly,
      ih (orderly_perform orderly first) others]

end LockStore

end TransactionKit
