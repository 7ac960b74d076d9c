import TransactionKit.Connection.RowStore
import TransactionKit.Error

/-!
Sessions on a row store. A session starts with a transaction, and after each commit or rollback it
starts the next, so a transaction is open until the session is closed. Closing rolls back what is
open. Everything but a further close fails on a closed session.
-/

namespace TransactionKit

/-- A session: its store, whether its connection is open, and whether it takes itself to be in a
transaction. -/
structure Session where
  store : RowStore
  isOpen : Bool
  inTransaction : Bool
deriving DecidableEq, Repr, Inhabited

namespace Session

/-- Run a statement as a part of an operation of the session. -/
def execute (store : RowStore) (statement : Statement) : Except Error RowStore :=
  match store.execute statement with
  | .ok store => .ok store
  | .error e => .error (.connection e.message)

/-- A session on a connection; fails if the connection has a transaction open. -/
def begin (store : RowStore) : Except Error Session := do
  return ⟨← execute store .begin, true, true⟩

/-- Whether there is a transaction for an operation to end. -/
def canEnd (session : Session) : Bool :=
  session.isOpen && session.inTransaction

/-- The failure to end a transaction when none is open. -/
def notOpen (operation : String) : Error :=
  .connection ("cannot " ++ operation ++ ": no open transaction")

/-- Start the next transaction. -/
def restart (session : Session) : Except Error Unit × Session :=
  match execute session.store .begin with
  | .ok store => (.ok (), { session with store := store, inTransaction := true })
  | .error e => (.error e, session)

/-- End the transaction by a statement. -/
def endWith (statement : Statement) (session : Session) : Except Error Unit × Session :=
  match execute session.store statement with
  | .ok store => (.ok (), { session with store := store, inTransaction := false })
  | .error e => (.error e, session)

/-- End the transaction by a statement and start the next. -/
def turn (operation : String) (statement : Statement) (session : Session) :
    Except Error Unit × Session :=
  if session.canEnd then
    match session.endWith statement with
    | (.ok (), ended) => ended.restart
    | failed => failed
  else (.error (notOpen operation), session)

/-- Commit the transaction and start the next. -/
def commit (session : Session) : Except Error Unit × Session :=
  session.turn "commit" .commit

/-- Roll the transaction back and start the next. -/
def rollback (session : Session) : Except Error Unit × Session :=
  session.turn "rollback" .rollback

/-- The session without its connection. -/
def disconnect (session : Session) : Session :=
  { session with store := session.store.disconnect, isOpen := false }

/-- Roll back what is open and close the connection. -/
def close (session : Session) : Except Error Unit × Session :=
  if session.inTransaction then
    if session.isOpen then
      match session.endWith .rollback with
      | (.ok (), ended) => (.ok (), ended.disconnect)
      | failed => failed
    else (.error (notOpen "rollback"), session)
  else (.ok (), session.disconnect)

/-- Insert a row through the connection. -/
def insert (session : Session) (row : Int) : Session :=
  { session with store := session.store.insert row }

/-- A session in one line, for people who debug. -/
def summary (session : Session) : String :=
  "SqliteConnection \x7b open: " ++ toString session.isOpen ++ ", in_transaction: " ++
    toString session.inTransaction ++ " \x7d"

end Session

end TransactionKit
