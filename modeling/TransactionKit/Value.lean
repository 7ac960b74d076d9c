import TransactionKit.Calendar.Pattern
import TransactionKit.Decimal.Shortest
import TransactionKit.Kind

/-!
Values: what a template parameter is bound to and what an entity field holds. Every value has a
plain text, used in lock keys and by raw rendering, and every scalar value other than binary
content has the kind it is rendered in when its parameter names none.
-/

namespace TransactionKit

/-- A value. -/
inductive Value where
  | null
  | bool (b : Bool)
  | int (i : Int32)
  /-- An integer of 64 bits. -/
  | long (i : Int64)
  /-- A character, a number by its code point. -/
  | char (c : Char)
  | float (x : Binary64)
  /-- A number of any precision in its decimal text. -/
  | decimal (digits : String)
  /-- An expression that is rendered as it stands. -/
  | raw (expression : String)
  | date (d : Date)
  | timestamp (t : Timestamp)
  /-- A constant of an enumeration, a number by its place in the declaration. -/
  | enumeration (ordinal : UInt32) (name : String)
  | text (s : String)
  /-- Binary content. -/
  | bytes (content : List UInt8)
  /-- A collection, rendered element by element. -/
  | array (items : List Value)
deriving Repr, Inhabited

namespace Value

/-- The name of the variant. -/
def typeName : Value → String
  | null => "Null"
  | bool _ => "Bool"
  | int _ => "Int"
  | long _ => "Long"
  | char _ => "Char"
  | float _ => "Float"
  | decimal _ => "Decimal"
  | raw _ => "Raw"
  | date _ => "Date"
  | timestamp _ => "Timestamp"
  | enumeration _ _ => "Enum"
  | text _ => "Text"
  | bytes _ => "Bytes"
  | array _ => "Array"

/-- The kind of a value whose parameter names none; null, binary content and collections are not
rendered through a kind. -/
def defaultKind? : Value → Option Kind
  | int _ | enumeration _ _ => some .integer
  | long _ | char _ => some .long
  | float _ => some .floating
  | decimal _ | raw _ => some .raw
  | date _ | timestamp _ => some .date
  | bool _ => some .boolean
  | text _ => some .text
  | null | bytes _ | array _ => none

mutual

/-- The plain text of a value; the elements of a collection are separated by commas. -/
def display : Value → String
  | null => "null"
  | bool true => "true"
  | bool false => "false"
  | int i => toString i.toInt
  | long i => toString i.toInt
  | char c => c.toString
  | float x => x.text
  | decimal s => s
  | raw s => s
  | date d => d.text
  | timestamp t => t.text
  | enumeration _ name => name
  | text s => s
  | bytes content => Text.hexOfBytes content
  | array items => ",".intercalate (displayAll items)

/-- The plain texts of a list of values. -/
def displayAll : List Value → List String
  | [] => []
  | item :: items => item.display :: displayAll items

end

theorem displayAll_eq_map (items : List Value) : displayAll items = items.map display := by
  induction items with
  | nil => rfl
  | cons item items ih => simp [displayAll, ih]

example : display (.array [.int 1, .null, .array [], .text "a"]) = "1,null,,a" := by
  decide +kernel

end Value

end TransactionKit
