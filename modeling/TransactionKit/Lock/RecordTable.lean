import TransactionKit.Lock.Record

/-!
Lock tables kept in memory: a list of records with at most one for each key. The three steps of a
backend are functions on it. `create` leaves an occupied key alone and `remove` may ask for an
owner, so a table without repeated keys never gets one.
-/

namespace TransactionKit

/-- A lock table in memory. -/
structure RecordTable where
  records : List Record
deriving DecidableEq, Repr, Inhabited

namespace RecordTable

/-- The table without records. -/
def empty : RecordTable :=
  ⟨[]⟩

/-- The number of records, stale ones among them. -/
def size (table : RecordTable) : Nat :=
  table.records.length

def read (table : RecordTable) (key : LockKey) : Option Record :=
  table.records.find? fun record => record.key == key

/-- Insert a record unless its key has one; whether it was inserted. -/
def create (table : RecordTable) (record : Record) : Bool × RecordTable :=
  if (table.read record.key).isSome then (false, table)
  else (true, ⟨record :: table.records⟩)

/-- Remove the record of a key, if it belongs to the owner when one is given; whether a record was
removed. -/
def remove (table : RecordTable) (key : LockKey) (owner? : Option String) : Bool × RecordTable :=
  match table.read key with
  | none => (false, table)
  | some record =>
    if owner?.all (· == record.owner) then
      (true, ⟨table.records.filter fun other => other.key != key⟩)
    else (false, table)

/-- A record is read under its own key. -/
theorem key_of_read {table : RecordTable} {key : LockKey} {record : Record}
    (found : table.read key = some record) : record.key = key := by
  unfold RecordTable.read at found
  have satisfied := List.find?_some found
  exact beq_iff_eq.mp satisfied

theorem create_of_vacant {table : RecordTable} {record : Record}
    (vacant : table.read record.key = none) :
    table.create record = (true, ⟨record :: table.records⟩) := by
  simp [RecordTable.create, vacant]

theorem create_of_occupied {table : RecordTable} {record other : Record}
    (occupied : table.read record.key = some other) : table.create record = (false, table) := by
  simp [RecordTable.create, occupied]

/-- A record is inserted exactly when its key has none. -/
theorem create_fst_eq_true {table : RecordTable} {record : Record} :
    (table.create record).1 = true ↔ table.read record.key = none := by
  cases found : table.read record.key with
  | none => simp [create_of_vacant found]
  | some other => simp [create_of_occupied found]

/-- An insertion changes what is read under one key, and only if it succeeds. -/
theorem read_create (table : RecordTable) (record : Record) (key : LockKey) :
    (table.create record).2.read key =
      if (table.create record).1 = true ∧ record.key = key then some record
      else table.read key := by
  cases found : table.read record.key with
  | none =>
    rw [create_of_vacant found]
    by_cases same : record.key = key
    · simp [RecordTable.read, same]
    · simp [RecordTable.read, same]
  | some other => simp [create_of_occupied found]

/-- A record is removed exactly when its key has one and the owner asked for, if any, holds it. -/
theorem remove_fst_eq_true {table : RecordTable} {key : LockKey} {owner? : Option String} :
    (table.remove key owner?).1 = true ↔
      ∃ record, table.read key = some record ∧ owner?.all (· == record.owner) = true := by
  unfold RecordTable.remove
  cases table.read key with
  | none => simp
  | some record =>
    by_cases held : owner?.all (· == record.owner) = true
    · simp [held]
    · simp [held]

/-- A removal changes what is read under one key, and only if it succeeds. -/
theorem read_remove (table : RecordTable) (key : LockKey) (owner? : Option String)
    (other : LockKey) :
    (table.remove key owner?).2.read other =
      if (table.remove key owner?).1 = true ∧ key = other then none else table.read other := by
  unfold RecordTable.remove
  cases table.read key with
  | none => simp
  | some record =>
    by_cases held : owner?.all (· == record.owner) = true
    · by_cases same : key = other
      · simp [held, same, RecordTable.read]
      · simp only [held, if_true, same, and_false, if_false, RecordTable.read]
        rw [List.find?_filter]
        congr 1
        funext entry
        by_cases isOther : entry.key = other
        · simp [isOther, Ne.symm same]
        · simp [isOther]
    · simp [held]

/-- Whether no two records have the same key. -/
def OnePerKey (table : RecordTable) : Prop :=
  (table.records.map Record.key).Nodup

theorem onePerKey_empty : empty.OnePerKey :=
  List.nodup_nil

theorem OnePerKey.create {table : RecordTable} (one : table.OnePerKey) (record : Record) :
    (table.create record).2.OnePerKey := by
  unfold RecordTable.create
  split
  · exact one
  · rename_i absent
    refine List.nodup_cons.mpr ⟨fun member => absent ?_, one⟩
    obtain ⟨other, present, same⟩ := List.mem_map.mp member
    exact List.find?_isSome.mpr ⟨other, present, beq_iff_eq.mpr same⟩

theorem OnePerKey.remove {table : RecordTable} (one : table.OnePerKey) (key : LockKey)
    (owner? : Option String) : (table.remove key owner?).2.OnePerKey := by
  unfold RecordTable.remove
  split
  · exact one
  · split
    · exact one.sublist (List.filter_sublist.map Record.key)
    · exact one

end RecordTable

end TransactionKit
