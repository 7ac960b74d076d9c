import TransactionKit.Routine

/-!
The connections of one transaction. A bundle has at most one connection for each owner number, in
the order of enlistment. Committing and rolling back goes to every connection, also after one has
failed, and keeps them all; only closing forgets them.
-/

namespace TransactionKit

/-- The connections of a transaction in the order of enlistment. -/
structure Bundle where
  connections : List Connection
deriving DecidableEq, Repr, Inhabited

namespace Bundle

/-- The bundle without connections. -/
def empty : Bundle :=
  ⟨[]⟩

def size (bundle : Bundle) : Nat :=
  bundle.connections.length

/-- Whether there is no connection. -/
def isEmpty (bundle : Bundle) : Bool :=
  bundle.connections.isEmpty

def contains (bundle : Bundle) (ownerId : Nat) : Bool :=
  bundle.connections.any fun connection => connection.store.ownerId == ownerId

/-- A bundle in one line, for people who debug. -/
def summary (bundle : Bundle) : String :=
  "ConnectionBundle \x7b connections: " ++ toString bundle.size ++ " \x7d"

/-- Enlist a connection of a store, unless its owner number has one; whether it has one then. A
store without transactions never has one. -/
def encapsulate (bundle : Bundle) (store : Store) : Routine (Except Error Bool × Bundle) := do
  if bundle.contains store.ownerId then return (.ok true, bundle)
  else
    match ← Routine.connect store with
    | .ok (some connection) => return (.ok true, ⟨bundle.connections ++ [connection]⟩)
    | .ok none => return (.ok false, bundle)
    | .error e => return (.error e, bundle)

/-- The failures of an action on each of some connections in turn. -/
def failures (action : Connection → Routine (Except Error Unit)) :
    List Connection → Routine (List Error)
  | [] => return []
  | connection :: rest => do
    let result ← action connection
    let later ← failures action rest
    match result with
    | .ok () => return later
    | .error e => return e :: later

/-- The result of an action, by name, on `total` connections with some failures. -/
def outcome (action : String) (total : Nat) : List Error → Except Error Unit
  | [] => .ok ()
  | errors =>
    .error (.connection (action ++ " failed on " ++ toString errors.length ++ " of " ++
      toString total ++ " connections: " ++ "; ".intercalate (errors.map Error.message)))

/-- Commit every connection. -/
def commit (bundle : Bundle) : Routine (Except Error Unit) := do
  return outcome "commit" bundle.size (← failures Routine.commit bundle.connections)

/-- Roll every connection back. -/
def rollback (bundle : Bundle) : Routine (Except Error Unit) := do
  return outcome "rollback" bundle.size (← failures Routine.rollback bundle.connections)

/-- Close and forget every connection; failures are passed over. -/
def closeAll (bundle : Bundle) : Routine Bundle := do
  let _ ← failures Routine.close bundle.connections
  return empty

end Bundle

end TransactionKit
