/-!
Handles of stores and of the connections that they hand out. Every handle of one store has the
same owner number, and a transaction keeps one connection for each owner number.
-/

namespace TransactionKit

/-- A store that can take part in transactions. -/
structure Store where
  id : Nat
  ownerId : Nat
deriving DecidableEq, Repr, Inhabited

/-- A connection of a store with a transaction open in it. The serial number tells it from the
other connections of its store. -/
structure Connection where
  store : Store
  serial : Nat
deriving DecidableEq, Repr, Inhabited

end TransactionKit
