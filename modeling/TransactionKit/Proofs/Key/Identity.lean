import TransactionKit.Key

/-!
What a lock key tells about its entity. A key writes a comma before each primary key value and does
not mark the commas in a value, so the values are known from the key together with the number of
commas in each of them, and not from the key alone: `LockKey.ofEntity_eq_iff` says which entities of
a type have equal values behind equal keys, and `LockKey.ofEntity_shifted_comma` shows two with
different ones.
-/

namespace TransactionKit

namespace LockKey

/-! ## Texts behind commas -/

/-- The number of commas in a text. -/
def commas (text : String) : Nat :=
  text.toList.count ','

/-- Texts one after the other, with a comma before each. -/
def commaBeforeEach (texts : List String) : List Char :=
  texts.flatMap fun text => ',' :: text.toList

theorem head?_commaBeforeEach (texts : List String) :
    ∀ c ∈ (commaBeforeEach texts).head?, c = ',' := by
  cases texts with
  | nil => exact fun c first => by cases first
  | cons text texts =>
    rintro c ⟨⟩
    rfl

/-- Two beginnings of one text that are followed by commas, or by nothing, and have as many commas
themselves are the same. -/
theorem eq_of_append_eq {text other rest after : List Char}
    (restStops : ∀ c ∈ rest.head?, c = ',') (afterStops : ∀ c ∈ after.head?, c = ',')
    (counts : text.count ',' = other.count ',') (same : text ++ rest = other ++ after) :
    text = other ∧ rest = after := by
  rcases List.append_eq_append_iff.mp same with ⟨more, rfl, rfl⟩ | ⟨more, rfl, rfl⟩
  · cases more with
    | nil => simp
    | cons c more =>
      cases restStops c rfl
      simp at counts
  · cases more with
    | nil => simp
    | cons c more =>
      cases afterStops c rfl
      simp at counts

/-- Texts behind commas are known from the whole and from how many commas each of them has. -/
theorem commaBeforeEach_injective {texts others : List String}
    (counts : texts.map commas = others.map commas)
    (same : commaBeforeEach texts = commaBeforeEach others) : texts = others := by
  induction texts generalizing others with
  | nil =>
    rw [List.map_nil, eq_comm, List.map_eq_nil_iff] at counts
    exact counts.symm
  | cons text texts ih =>
    cases others with
    | nil => cases counts
    | cons other others =>
      obtain ⟨count, counts⟩ := List.cons.inj counts
      have following : text.toList ++ commaBeforeEach texts =
          other.toList ++ commaBeforeEach others := by
        simpa [commaBeforeEach] using same
      obtain ⟨first, rest⟩ := eq_of_append_eq (head?_commaBeforeEach texts)
        (head?_commaBeforeEach others) count following
      rw [String.toList_inj.mp first, ih counts rest]

/-! ## Keys of values -/

theorem toList_text_ofParts (typeName : String) (values : List Value) :
    (ofParts typeName values).text.toList =
      typeName.toList ++ commaBeforeEach (values.map Value.display) := by
  simp [ofParts, commaBeforeEach, String.toList_join, List.flatMap_map]

/-- Keys of one type are equal exactly if the texts of the values make up the same whole. -/
theorem ofParts_eq_iff {typeName : String} {values others : List Value} :
    ofParts typeName values = ofParts typeName others ↔
      commaBeforeEach (values.map Value.display) = commaBeforeEach (others.map Value.display) := by
  have texts (key other : LockKey) : key = other ↔ key.text.toList = other.text.toList := by
    rw [String.toList_inj]
    exact ⟨congrArg LockKey.text, fun same => congrArg LockKey.mk same⟩
  rw [texts, toList_text_ofParts, toList_text_ofParts, List.append_cancel_left_eq]

/-- Values of one type have the same texts exactly if they have the same key and as many commas. -/
theorem displays_eq_iff {typeName : String} {values others : List Value} :
    values.map Value.display = others.map Value.display ↔
      ofParts typeName values = ofParts typeName others ∧
        (values.map Value.display).map commas = (others.map Value.display).map commas := by
  rw [ofParts_eq_iff]
  constructor
  · intro same
    rw [same]
    exact ⟨rfl, rfl⟩
  · rintro ⟨whole, counts⟩
    exact commaBeforeEach_injective counts whole

/-! ## Keys of entities -/

/-- An entity has a key exactly if its type has a primary key and it has a value in every field of
that. -/
theorem ofEntity_eq_ok_iff {types : EntityTypes} {entity : Entity} {key : LockKey} :
    ofEntity types entity = .ok key ↔
      ∃ fields values, types.primaryKey entity.typeName = .ok fields ∧ fields ≠ [] ∧
        fields.mapM entity.field = .ok values ∧ key = ofParts entity.typeName values := by
  unfold ofEntity
  cases types.primaryKey entity.typeName with
  | error e => simp [bind, Except.bind]
  | ok fields =>
    by_cases empty : fields = []
    · subst empty
      simp [bind, Except.bind, throw, throwThe, MonadExceptOf.throw]
    · have nonempty : fields.isEmpty = false := by simpa using empty
      cases found : fields.mapM entity.field with
      | error e => simp [bind, Except.bind, nonempty, found]
      | ok values => simp [bind, Except.bind, pure, Except.pure, nonempty, empty, found, eq_comm]

/-- Two entities of one type that have keys have the same texts in their primary keys exactly if the
keys are equal and corresponding texts have as many commas. So equal keys tell that the entities are
the same wherever no value has a comma in it, and in general they do not. -/
theorem ofEntity_eq_iff {types : EntityTypes} {a b : Entity} {key other : LockKey}
    (sameType : a.typeName = b.typeName) (first : ofEntity types a = .ok key)
    (second : ofEntity types b = .ok other) :
    ∃ fields values others, types.primaryKey a.typeName = .ok fields ∧ fields ≠ [] ∧
      fields.mapM a.field = .ok values ∧ fields.mapM b.field = .ok others ∧
        (values.map Value.display = others.map Value.display ↔
          key = other ∧
            (values.map Value.display).map commas = (others.map Value.display).map commas) := by
  obtain ⟨fields, values, registered, nonempty, found, rfl⟩ := ofEntity_eq_ok_iff.mp first
  obtain ⟨sameFields, others, again, -, alsoFound, rfl⟩ := ofEntity_eq_ok_iff.mp second
  rw [← sameType, registered] at again
  cases again
  refine ⟨fields, values, others, registered, nonempty, found, alsoFound, ?_⟩
  rw [← sameType]
  exact displays_eq_iff

/-- An order with its region written first, and one with a note, have the same key and so the same
texts in their primary keys. -/
theorem ofEntity_eq_iff_order :
    ∃ (types : EntityTypes) (a b : Entity) (fields : List String) (values others : List Value),
      a.typeName = b.typeName ∧ ofEntity types a = .ok ⟨"Order,7,EU"⟩ ∧
        ofEntity types b = .ok ⟨"Order,7,EU"⟩ ∧ fields.mapM a.field = .ok values ∧
        fields.mapM b.field = .ok others ∧
        values.map Value.display = others.map Value.display := by
  let types : EntityTypes := ⟨[("Order", ["id", "region"])]⟩
  let a : Entity := ⟨"Order", [("region", .text "EU"), ("id", .int 7)], "first"⟩
  let b : Entity := ⟨"Order", [("id", .long 7), ("region", .text "EU"), ("note", .null)], "second"⟩
  have sameType : a.typeName = b.typeName := rfl
  have known : types.primaryKey "Order" = .ok ["id", "region"] := rfl
  have aValues : ["id", "region"].mapM a.field = .ok [.int 7, .text "EU"] := rfl
  have bValues : ["id", "region"].mapM b.field = .ok [.long 7, .text "EU"] := rfl
  have first : ofEntity types a = .ok ⟨"Order,7,EU"⟩ :=
    ofEntity_eq_ok_iff.mpr ⟨_, _, known, by decide, aValues, by decide +kernel⟩
  have second : ofEntity types b = .ok ⟨"Order,7,EU"⟩ :=
    ofEntity_eq_ok_iff.mpr ⟨_, _, known, by decide, bValues, by decide +kernel⟩
  obtain ⟨fields, values, others, registered, -, found, alsoFound, same⟩ :=
    ofEntity_eq_iff sameType first second
  cases known.symm.trans registered
  cases aValues.symm.trans found
  cases bValues.symm.trans alsoFound
  exact ⟨types, a, b, _, _, _, sameType, first, second, aValues, bValues,
    same.mpr ⟨rfl, by decide +kernel⟩⟩

/-- A comma that ends one value looks like the comma before the next: two entities of one type have
equal keys and different values. -/
theorem ofEntity_shifted_comma :
    ∃ (types : EntityTypes) (a b : Entity) (fields : List String) (values others : List Value)
      (key : LockKey), a.typeName = b.typeName ∧ types.primaryKey a.typeName = .ok fields ∧
        fields ≠ [] ∧ ofEntity types a = .ok key ∧ ofEntity types b = .ok key ∧
        fields.mapM a.field = .ok values ∧ fields.mapM b.field = .ok others ∧
        values.map Value.display ≠ others.map Value.display := by
  let types : EntityTypes := ⟨[("T", ["a", "b"])]⟩
  let a : Entity := ⟨"T", [("a", .text "x,y"), ("b", .text "z")], "first"⟩
  let b : Entity := ⟨"T", [("a", .text "x"), ("b", .text "y,z")], "second"⟩
  have known : types.primaryKey "T" = .ok ["a", "b"] := rfl
  have aValues : ["a", "b"].mapM a.field = .ok [.text "x,y", .text "z"] := rfl
  have bValues : ["a", "b"].mapM b.field = .ok [.text "x", .text "y,z"] := rfl
  have first : ofEntity types a = .ok ⟨"T,x,y,z"⟩ :=
    ofEntity_eq_ok_iff.mpr ⟨_, _, known, by decide, aValues, by decide +kernel⟩
  have second : ofEntity types b = .ok ⟨"T,x,y,z"⟩ :=
    ofEntity_eq_ok_iff.mpr ⟨_, _, known, by decide, bValues, by decide +kernel⟩
  exact ⟨types, a, b, _, _, _, _, rfl, known, by decide, first, second, aValues, bValues,
    by decide +kernel⟩

end LockKey

end TransactionKit
