import TransactionKit.Calendar.Date
import TransactionKit.Config
import TransactionKit.Decimal.Binary64
import TransactionKit.Lock.Record

/-!
Lock tables kept in a database. A database has at most one lock table, whose rows hold the key, the
time of creation in whole milliseconds, the token of the owner and its description. Other programs
may write to the same table, so a cell can hold something else than a lock table would put there;
such a row counts and can be removed, but not be read. Every step is one statement: it fails
without an effect or takes effect as a whole.
-/

namespace TransactionKit

/-- What one cell of a row holds. -/
inductive Cell where
  | integer (n : Int)
  | real (x : Binary64)
  | text (s : String)
  | blob (bytes : List UInt8)
deriving DecidableEq, Repr, Inhabited

namespace Cell

/-- The name of the storage class of a cell. -/
def className : Cell → String
  | integer _ => "Integer"
  | real _ => "Real"
  | text _ => "Text"
  | blob _ => "Blob"

/-- The failure to read a cell as what its column should hold. -/
def mistyped (cell : Cell) (column : Nat) (name : String) : Error :=
  .storage ("Invalid column type " ++ cell.className ++ " at index: " ++ toString column ++
    ", name: " ++ name)

def asInteger (column : Nat) (name : String) : Cell → Except Error Int
  | integer n => .ok n
  | other => .error (other.mistyped column name)

def asText (column : Nat) (name : String) : Cell → Except Error String
  | text s => .ok s
  | other => .error (other.mistyped column name)

end Cell

/-- One row of a lock table. -/
structure Row where
  key : String
  created : Cell
  owner : Cell
  description : Cell
deriving DecidableEq, Repr, Inhabited

namespace Row

/-- The number of milliseconds in a day. -/
def msPerDay : Int := 86400000

/-- The row of a record. Its time is rounded down to whole milliseconds, which do not tell a leap
second from the next one. -/
def ofRecord (record : Record) : Row where
  key := record.key.text
  created := .integer record.created.ms
  owner := .text record.owner
  description := .text record.description

/-- Whether a time in milliseconds lies on a day of the calendar. -/
def isDated (ms : Int) : Bool :=
  Date.minDayNumber ≤ ms / msPerDay && ms / msPerDay ≤ Date.maxDayNumber

/-- The record in a row. Cells are looked at from left to right and the time last. -/
def record (row : Row) : Except Error Record := do
  let created ← row.created.asInteger 1 "created"
  let owner ← row.owner.asText 2 "owner"
  let description ← row.description.asText 3 "owner_str"
  if isDated created then
    return ⟨⟨row.key⟩, owner, description, .ofMs created⟩
  else
    throw (.storage ("lock " ++ row.key ++ " has invalid created time " ++ toString created))

end Row

/-- A database as far as its lock table goes. -/
inductive Database where
  /-- A database, with the rows of its lock table if it has one. -/
  | readable (rows? : Option (List Row))
  /-- A file that is something else. -/
  | foreign
deriving DecidableEq, Repr, Inhabited

namespace Database

def tableName : String :=
  "tessera_locks"

/-- A database without tables. -/
def empty : Database :=
  .readable none

/-- The failure to use a file as a database. -/
def notADatabase : Error :=
  .storage "file is not a database"

/-- The failure to open a file. -/
def cannotOpen : Error :=
  .storage "unable to open database file"

/-- The failure to find the lock table. -/
def noTable : Error :=
  .storage ("no such table: " ++ tableName)

/-- The rows of the lock table. -/
def rows : Database → Except Error (List Row)
  | readable (some rows) => .ok rows
  | readable none => .error noTable
  | foreign => .error notADatabase

/-- Make sure that there is a lock table. -/
def prepare : Database → Except Error Database
  | readable rows? => .ok (.readable (some (rows?.getD [])))
  | foreign => .error notADatabase

/-- A statement on the rows of the lock table. -/
def update {α : Type} (database : Database) (statement : List Row → α × List Row) :
    Except Error α × Database :=
  match database.rows with
  | .ok rows => (.ok (statement rows).1, .readable (some (statement rows).2))
  | .error e => (.error e, database)

/-- The number of rows. -/
def size (database : Database) : Except Error Nat :=
  database.rows.map List.length

/-- Insert a row unless its key has one; whether it was inserted. -/
def insertRow (row : Row) (rows : List Row) : Bool × List Row :=
  if rows.any fun other => other.key == row.key then (false, rows) else (true, rows ++ [row])

/-- Delete the rows that match; whether there was one. -/
def deleteRows (isMatch : Row → Bool) (rows : List Row) : Bool × List Row :=
  (rows.any isMatch, rows.filter fun row => !isMatch row)

/-- Insert the row of a record unless its key has one; whether it was inserted. -/
def create (database : Database) (record : Record) : Except Error Bool × Database :=
  database.update (insertRow (.ofRecord record))

def read (database : Database) (key : LockKey) : Except Error (Option Record) := do
  match (← database.rows).find? fun row => row.key == key.text with
  | some row => some <$> row.record
  | none => return none

/-- Delete the row of a key, if it belongs to the owner when one is given; whether a row was
deleted. -/
def remove (database : Database) (key : LockKey) (owner? : Option String) :
    Except Error Bool × Database :=
  database.update (deleteRows fun row =>
    row.key == key.text && owner?.all fun owner => row.owner == .text owner)

/-- Delete the lock table. -/
def dropTable : Database → Except Error Database
  | readable (some _) => .ok (.readable none)
  | readable none => .error noTable
  | foreign => .error notADatabase

/-- A backend on the lock table in one line, for people who debug. -/
def backendSummary (config : LockConfig) : String :=
  "PersistentLockStrategy \x7b table: " ++ Text.shown tableName ++ ", config: " ++
    config.summary ++ " \x7d"

end Database

end TransactionKit
