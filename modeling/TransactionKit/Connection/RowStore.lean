/-!
A store of rows with transactions, as one connection sees it. Outside a transaction a row that is
inserted is durable at once. Inside one the rows are changed in a working copy, which becomes
durable on commit and is dropped on rollback.
-/

namespace TransactionKit

/-- A statement that starts or ends a transaction. -/
inductive Statement where
  | begin
  | commit
  | rollback
  /-- Mark a place in a transaction; starts one if there is none. -/
  | savepoint
deriving DecidableEq, Repr, Inhabited

/-- The statement in a text: its words in any case, perhaps with a semicolon after them. -/
def Statement.ofText? (text : String) : Option Statement :=
  let spaced := text.map fun c => if c.isWhitespace || c = ';' then ' ' else c
  match (spaced.toUpper.splitOn " ").filter (· ≠ "") with
  | ["BEGIN"] | ["BEGIN", "TRANSACTION"] | ["BEGIN", "DEFERRED"] | ["BEGIN", "IMMEDIATE"]
  | ["BEGIN", "EXCLUSIVE"] => some .begin
  | ["COMMIT"] | ["COMMIT", "TRANSACTION"] | ["END"] | ["END", "TRANSACTION"] => some .commit
  | ["ROLLBACK"] | ["ROLLBACK", "TRANSACTION"] => some .rollback
  | ["SAVEPOINT", _] => some .savepoint
  | _ => none

/-- Why a statement fails. -/
inductive StatementError where
  | alreadyBegun
  | nothingToCommit
  | nothingToRollBack
deriving DecidableEq, Repr, Inhabited

/-- The text of a failure. -/
def StatementError.message : StatementError → String
  | alreadyBegun => "cannot start a transaction within a transaction"
  | nothingToCommit => "cannot commit - no transaction is active"
  | nothingToRollBack => "cannot rollback - no transaction is active"

/-- The durable rows, and the rows of the open transaction if there is one. -/
structure RowStore where
  durable : List Int
  working? : Option (List Int)
deriving DecidableEq, Repr, Inhabited

namespace RowStore

/-- A store with durable rows and no open transaction. -/
def ofRows (rows : List Int) : RowStore :=
  ⟨rows, none⟩

/-- The rows that the connection sees. -/
def visible (store : RowStore) : List Int :=
  store.working?.getD store.durable

def insert (store : RowStore) (row : Int) : RowStore :=
  match store.working? with
  | some rows => { store with working? := some (rows ++ [row]) }
  | none => { store with durable := store.durable ++ [row] }

/-- Run a statement. -/
def execute (store : RowStore) : Statement → Except StatementError RowStore
  | .begin =>
    match store.working? with
    | some _ => .error .alreadyBegun
    | none => .ok { store with working? := some store.durable }
  | .commit =>
    match store.working? with
    | some rows => .ok ⟨rows, none⟩
    | none => .error .nothingToCommit
  | .rollback =>
    match store.working? with
    | some _ => .ok { store with working? := none }
    | none => .error .nothingToRollBack
  | .savepoint => .ok { store with working? := some store.visible }

/-- The store after the connection is gone: an open transaction is rolled back. -/
def disconnect (store : RowStore) : RowStore :=
  { store with working? := none }

end RowStore

end TransactionKit
