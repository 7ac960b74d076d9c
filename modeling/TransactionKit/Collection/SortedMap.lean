/-!
Maps as lists of entries in strictly ascending order of their keys, which is a part of the type.
Inserting under a key that is there replaces the value, so the keys of a map built by `ofList` are
the keys of the list without repetitions, in order, each with its last value.
-/

namespace TransactionKit

/-- What an order of keys has to satisfy: of two different keys one is less. -/
class KeyOrder (κ : Type) [LT κ] : Prop where
  trans {a b c : κ} : a < b → b < c → a < c
  eq_of_not_lt {a b : κ} : ¬a < b → ¬b < a → a = b

instance : KeyOrder String where
  trans := String.lt_trans
  eq_of_not_lt h k := Std.Trichotomous.trichotomous (r := (· < ·)) _ _ h k

instance : KeyOrder Nat where
  trans := Nat.lt_trans
  eq_of_not_lt h k := Nat.le_antisymm (Nat.le_of_not_lt k) (Nat.le_of_not_lt h)

/-- A finite map. -/
structure SortedMap (κ α : Type) [LT κ] where
  entries : List (κ × α)
  ascending : entries.Pairwise fun a b => a.1 < b.1
deriving Repr

namespace SortedMap

variable {κ α : Type} [LT κ]

/-- The map without entries. -/
def empty : SortedMap κ α :=
  ⟨[], .nil⟩

instance : EmptyCollection (SortedMap κ α) := ⟨empty⟩

instance : Inhabited (SortedMap κ α) := ⟨empty⟩

/-- The keys in ascending order. -/
def keys (m : SortedMap κ α) : List κ :=
  m.entries.map Prod.fst

/-- The values in the order of their keys. -/
def values (m : SortedMap κ α) : List α :=
  m.entries.map Prod.snd

/-- The number of entries. -/
def size (m : SortedMap κ α) : Nat :=
  m.entries.length

/-- Whether there is no entry. -/
def isEmpty (m : SortedMap κ α) : Bool :=
  m.entries.isEmpty

@[simp] theorem keys_empty : (empty : SortedMap κ α).keys = [] := rfl

theorem ascending_keys (m : SortedMap κ α) : m.keys.Pairwise (· < ·) :=
  List.pairwise_map.mpr m.ascending

section Equality

variable [DecidableEq κ]

/-- The value under a key. -/
def get? (m : SortedMap κ α) (key : κ) : Option α :=
  (m.entries.find? fun entry => decide (entry.1 = key)).map Prod.snd

/-- Whether there is a value under a key. -/
def contains (m : SortedMap κ α) (key : κ) : Bool :=
  (m.get? key).isSome

/-- The map without the entry of a key. -/
def erase (m : SortedMap κ α) (key : κ) : SortedMap κ α :=
  ⟨m.entries.filter fun entry => decide (entry.1 ≠ key), m.ascending.filter _⟩

theorem contains_iff_mem_keys (m : SortedMap κ α) (key : κ) :
    m.contains key = true ↔ key ∈ m.keys := by
  simp [contains, get?, keys]

end Equality

section Order

variable [DecidableLT κ]

/-- Place an entry before the first greater key, instead of an entry with the same key. -/
def insertEntry (key : κ) (value : α) : List (κ × α) → List (κ × α)
  | [] => [(key, value)]
  | (k, v) :: rest =>
    if key < k then (key, value) :: (k, v) :: rest
    else if k < key then (k, v) :: insertEntry key value rest
    else (key, value) :: rest

theorem eq_or_mem_of_mem_insertEntry {key : κ} {value : α} {entries : List (κ × α)}
    {entry : κ × α} (h : entry ∈ insertEntry key value entries) :
    entry = (key, value) ∨ entry ∈ entries := by
  induction entries with
  | nil => simpa [insertEntry] using h
  | cons first rest ih =>
    unfold insertEntry at h
    split at h <;> grind

theorem ascending_insertEntry [KeyOrder κ] (key : κ) (value : α) {entries : List (κ × α)}
    (h : entries.Pairwise fun a b => a.1 < b.1) :
    (insertEntry key value entries).Pairwise fun a b => a.1 < b.1 := by
  induction entries with
  | nil => simp [insertEntry]
  | cons first rest ih =>
    obtain ⟨least, ascending⟩ := List.pairwise_cons.mp h
    unfold insertEntry
    split
    next before =>
      refine List.pairwise_cons.mpr ⟨fun entry member => ?_, h⟩
      rcases List.mem_cons.mp member with rfl | member
      · exact before
      · exact KeyOrder.trans before (least entry member)
    next notBefore =>
      split
      next after =>
        refine List.pairwise_cons.mpr ⟨fun entry member => ?_, ih ascending⟩
        rcases eq_or_mem_of_mem_insertEntry member with rfl | member
        · exact after
        · exact least entry member
      next notAfter =>
        have same : key = first.1 := KeyOrder.eq_of_not_lt notBefore notAfter
        exact List.pairwise_cons.mpr ⟨fun entry member => same ▸ least entry member, ascending⟩

theorem mem_keys_insertEntry [KeyOrder κ] {key other : κ} {value : α} {entries : List (κ × α)} :
    other ∈ (insertEntry key value entries).map Prod.fst ↔
      other = key ∨ other ∈ entries.map Prod.fst := by
  induction entries with
  | nil => simp [insertEntry]
  | cons first rest ih =>
    unfold insertEntry
    split
    next => simp
    next notBefore =>
      split
      next =>
        simp only [List.map_cons, List.mem_cons, ih]
        exact or_left_comm
      next notAfter =>
        have same : key = first.1 := KeyOrder.eq_of_not_lt notBefore notAfter
        simp [same]

/-- The map with a value under a key. -/
def insert [KeyOrder κ] (m : SortedMap κ α) (key : κ) (value : α) : SortedMap κ α :=
  ⟨insertEntry key value m.entries, ascending_insertEntry key value m.ascending⟩

/-- The map of a list of entries; of two entries with the same key the later one counts. -/
def ofList [KeyOrder κ] (entries : List (κ × α)) : SortedMap κ α :=
  entries.foldl (fun m entry => m.insert entry.1 entry.2) empty

/-- The keys of a map are those of the list that it is built from. -/
theorem mem_keys_ofList [KeyOrder κ] {key : κ} {entries : List (κ × α)} :
    key ∈ (ofList entries).keys ↔ key ∈ entries.map Prod.fst := by
  have added : ∀ m : SortedMap κ α,
      key ∈ (entries.foldl (fun m entry => m.insert entry.1 entry.2) m).keys ↔
        key ∈ m.keys ∨ key ∈ entries.map Prod.fst := by
    induction entries with
    | nil => simp
    | cons first rest ih =>
      intro m
      rw [List.foldl_cons, ih, keys, insert, mem_keys_insertEntry, List.map_cons, List.mem_cons,
        or_assoc, or_left_comm]
      rfl
  exact (added empty).trans (or_iff_right List.not_mem_nil)

end Order

example : (ofList [(2, 'b'), (1, 'a'), (2, 'c')]).entries = [(1, 'a'), (2, 'c')] := by decide

end SortedMap

end TransactionKit
