import TransactionKit.Text.Blank

/-!
Rendering kinds: the textual encodings a value can take inside a statement. Each kind has one
canonical name; a parameter may also ask for it by one of its other names, in any case and with
blanks around.
-/

namespace TransactionKit

/-- The textual encoding of a value inside a statement. -/
inductive Kind where
  /-- A quoted, escaped literal. -/
  | text
  /-- An integer literal of 32 bits. -/
  | integer
  /-- An integer literal of 64 bits. -/
  | long
  /-- A decimal literal of a finite number. -/
  | floating
  /-- A quoted date literal. -/
  | date
  /-- The plain text of the value, as it is. -/
  | raw
  /-- One of two fixed literals. -/
  | boolean
deriving DecidableEq, Repr, Inhabited

namespace Kind

/-- The canonical name. -/
def name : Kind → String
  | text => "text"
  | integer => "integer"
  | long => "long"
  | floating => "floating"
  | date => "date"
  | raw => "raw"
  | boolean => "boolean"

/-- All the names of a kind, the canonical one among them. -/
def names : Kind → List String
  | text => ["text", "string", "varchar"]
  | integer => ["int", "integer"]
  | long => ["long", "bigint"]
  | floating => ["float", "double", "floating"]
  | date => ["date", "datetime", "timestamp"]
  | raw => ["raw"]
  | boolean => ["bool", "boolean"]

/-- Every kind. -/
def all : List Kind :=
  [text, integer, long, floating, date, raw, boolean]

/-- The kind that a name stands for. -/
def ofName? (s : String) : Option Kind :=
  all.find? fun kind => kind.names.contains (Text.lower (Text.trim s))

/-- The name of a kind as a constructor. -/
def label : Kind → String
  | text => "Text"
  | integer => "Integer"
  | long => "Long"
  | floating => "Floating"
  | date => "Date"
  | raw => "Raw"
  | boolean => "Boolean"

example : all.all (fun kind => ofName? kind.name = some kind) := by decide +kernel

end Kind

end TransactionKit
