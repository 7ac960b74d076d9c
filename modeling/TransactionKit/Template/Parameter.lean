import TransactionKit.Error
import TransactionKit.Kind

/-!
Parameters of a statement template. A parameter is written as a list of names between dollar
signs, separated by commas: the key its value is bound to, optionally the kind to render it in,
and optionally the separator between the elements of a collection. Further names are kept and
have no meaning.
-/

namespace TransactionKit

/-- A parameter with its names as written and the kind they ask for. -/
structure Parameter where
  names : List String
  kind? : Option Kind
deriving DecidableEq, Repr, Inhabited

namespace Parameter

/-- The parameter with the given names. The second name must be blank or the name of a kind. -/
def ofNames (names : List String) : Except Error Parameter :=
  match names[1]? with
  | none => .ok ⟨names, none⟩
  | some name =>
    if (Text.trimList name.toList).isEmpty then .ok ⟨names, none⟩
    else
      match Kind.ofName? name with
      | some kind => .ok ⟨names, some kind⟩
      | none => .error (.unknownKind name)

/-- A parameter keeps its names as they are written. -/
theorem names_of_ofNames {names : List String} {p : Parameter} (h : ofNames names = .ok p) :
    p.names = names := by
  unfold ofNames at h
  split at h
  · cases h
    rfl
  · split at h
    · cases h
      rfl
    · split at h <;> cases h
      rfl

/-- The key the value is bound to: the first name, without blanks around it. -/
def key (p : Parameter) : String :=
  Text.trim (p.names.headD "")

/-- The separator asked for, blanks included. -/
def separator? (p : Parameter) : Option String :=
  p.names[2]?

/-- The text between the elements of a collection. -/
def separator (p : Parameter) : String :=
  p.separator?.getD ","

/-- The parameter as it is written. -/
def source (p : Parameter) : String :=
  "$" ++ ",".intercalate p.names ++ "$"

end Parameter

end TransactionKit
