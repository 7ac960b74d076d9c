import TransactionKit.Lock.Database.Literal

/-!
Statements that other programs run on a lock table: they delete the table, or insert rows of
literals, with the columns in any order. A statement takes effect as a whole or not at all. A text
holds any number of statements, which are run one after the other up to the first failure.
-/

namespace TransactionKit

namespace Database

/-- What happens to a new row whose key has a row already. -/
inductive Conflict where
  | fail
  | skip
  | replace
deriving DecidableEq, Repr, Inhabited

/-- A statement on the lock table. -/
inductive Statement where
  /-- Delete the table; with `ifPresent` that there is none is no failure. -/
  | dropTable (ifPresent : Bool)
  | insert (conflict : Conflict) (rows : List Row)
deriving DecidableEq, Repr, Inhabited

/-! ## Reading -/

namespace Reader

open Text (Reader)
open Text.Reader

/-- Read the name of the lock table, perhaps after the name of its database. -/
def table : Reader Unit := do
  let first ← name
  match ← maybe (do symbol '.'; name) with
  | none => guard (first = tableName.toUpper)
  | some second => guard (first = "MAIN" && second = tableName.toUpper)

/-- Read the name of a column. -/
def column : Reader Column := do
  match Column.ofName? (← name) with
  | some column => return column
  | none => failure

/-- Read what follows the word that starts an insertion and says what happens to taken keys. -/
def conflict : Reader Conflict := do
  keyword "OR"
  match ← word with
  | "IGNORE" => return .skip
  | "REPLACE" => return .replace
  | "ABORT" => return .fail
  | _ => failure

/-- Read one row of an insertion into some columns. -/
def row (into : List Column) : Reader Row := do
  let cells ← parenthesized literal
  guard (cells.length = into.length)
  match rowOfCells? (into.zip cells) with
  | some row => return row
  | none => failure

/-- Read a statement that inserts rows. -/
def insertion : Reader Statement := do
  let onTaken ←
    (do keyword "REPLACE"; return Conflict.replace) <|>
    (do keyword "INSERT"; return (← maybe conflict).getD .fail)
  keyword "INTO"
  table
  let into := (← maybe (parenthesized column)).getD columns
  keyword "VALUES"
  return .insert onTaken (← separated (row into) (symbol ','))

/-- Read a statement that deletes the table. -/
def deletion : Reader Statement := do
  keyword "DROP"
  keyword "TABLE"
  let ifPresent := (← maybe (do keyword "IF"; keyword "EXISTS")).isSome
  table
  return .dropTable ifPresent

/-- Read statements, each but the last followed by a semicolon; there may be nothing between
two semicolons. -/
def statements : Reader (List Statement) := do
  let read ← separated (maybe (deletion <|> insertion)) (symbol ';')
  token finished
  return read.filterMap id

end Reader

/-- The statements in a text, if all of them are known. -/
def Statement.ofText? (text : String) : Option (List Statement) :=
  Text.Reader.whole? Reader.statements text.toList

/-! ## Running -/

/-- The failure to insert a second row for a key. -/
def keyTaken : Error :=
  .storage ("UNIQUE constraint failed: " ++ tableName ++ ".key")

/-- Put a row into a table; nothing if its key has a row and that is a failure. -/
def putRow? (onTaken : Conflict) (rows : List Row) (row : Row) : Option (List Row) :=
  match insertRow row rows, onTaken with
  | (true, after), _ => some after
  | (false, _), .fail => none
  | (false, _), .skip => some rows
  | (false, _), .replace =>
    some ((deleteRows (fun other => other.key == row.key) rows).2 ++ [row])

/-- Insert rows: all of them or, after a failure, none. -/
def insertRows (onTaken : Conflict) (new : List Row) (database : Database) :
    Except Error Database := do
  match new.foldlM (putRow? onTaken) (← database.rows) with
  | some rows => return .readable (some rows)
  | none => throw keyTaken

/-- Insert a row; a second row for a key is an error. -/
def addRow (database : Database) (row : Row) : Except Error Database :=
  database.insertRows .fail [row]

/-- Run a statement. -/
def execute (database : Database) : Statement → Except Error Database
  | .dropTable ifPresent =>
    if ifPresent && database == .empty then .ok database else database.dropTable
  | .insert onTaken rows => database.insertRows onTaken rows

example : Statement.ofText? "insert into tessera_locks values ('it''s', x'00', 'o', '')" =
    some [.insert .fail [⟨"it's", .blob [0], .text "o", .text ""⟩]] := by decide +kernel
example : (Database.readable (some [])).execute (.insert .fail
    [⟨"k", .integer 1, .text "o", .text "d"⟩, ⟨"k", .integer 2, .text "o", .text "d"⟩]) =
    .error keyTaken := rfl

end Database

end TransactionKit
