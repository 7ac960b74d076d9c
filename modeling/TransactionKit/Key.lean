import TransactionKit.Collection.SortedMap
import TransactionKit.Error
import TransactionKit.Value

/-!
Lock keys and the entities they name. The key of an entity is its type name followed by the plain
texts of its primary key values in declaration order, with a comma before each. Keys are ordered
by their text, code point by code point.
-/

namespace TransactionKit

/-- The name of one lockable thing. -/
structure LockKey where
  text : String
deriving DecidableEq, Repr, Inhabited

/-- An entity as far as locking needs it: the name of its type, its field values, and a label that
tells it from other entities. -/
structure Entity where
  typeName : String
  fields : List (String × Value)
  label : String
deriving Repr, Inhabited

/-- What is known about entity types: the primary key fields of each in declaration order. -/
structure EntityTypes where
  primaryKeys : List (String × List String)
deriving DecidableEq, Repr, Inhabited

namespace EntityTypes

/-- The primary key fields of a type. -/
def primaryKey (types : EntityTypes) (typeName : String) : Except Error (List String) :=
  match types.primaryKeys.lookup typeName with
  | some fields => .ok fields
  | none => .error (.invalidState (typeName ++ " is not registered"))

end EntityTypes

def Entity.field (entity : Entity) (name : String) : Except Error Value :=
  match entity.fields.lookup name with
  | some value => .ok value
  | none => .error (.invalidState (entity.typeName ++ " has no field " ++ name))

namespace LockKey

instance : LT LockKey := ⟨fun a b => a.text < b.text⟩

instance (a b : LockKey) : Decidable (a < b) :=
  inferInstanceAs (Decidable (a.text < b.text))

instance : KeyOrder LockKey where
  trans h k := KeyOrder.trans (κ := String) h k
  eq_of_not_lt {a b} h k := by
    have same : a.text = b.text := KeyOrder.eq_of_not_lt (κ := String) h k
    cases a
    exact congrArg LockKey.mk same

instance : ToString LockKey := ⟨LockKey.text⟩

/-- The key of a type name and primary key values. -/
def ofParts (typeName : String) (values : List Value) : LockKey :=
  ⟨typeName ++ String.join (values.map fun value => "," ++ value.display)⟩

/-- The key of an entity. Its type must have a primary key, and the entity all the fields of it. -/
def ofEntity (types : EntityTypes) (entity : Entity) : Except Error LockKey := do
  let fields ← types.primaryKey entity.typeName
  if fields.isEmpty then
    throw (.invalidState ("entity type " ++ entity.typeName ++
      " has no primary key and cannot be locked"))
  return ofParts entity.typeName (← fields.mapM entity.field)

/-- The type name in a key: what stands before its first comma. -/
def typeName (key : LockKey) : String :=
  String.ofList (key.text.toList.takeWhile (· ≠ ','))

/-- The order of two keys. -/
def compare (a b : LockKey) : Ordering :=
  if a < b then .lt else if a = b then .eq else .gt

/-- Keys in ascending order. -/
def sort (keys : List LockKey) : List LockKey :=
  keys.mergeSort fun a b => !decide (b < a)

example : typeName ⟨"Order,7,EU"⟩ = "Order" ∧ ofParts "A" [.int 1, .text ""] = ⟨"A,1,"⟩ := by
  decide +kernel

end LockKey

end TransactionKit
