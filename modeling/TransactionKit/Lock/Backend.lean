import TransactionKit.Config
import TransactionKit.Lock.Record

/-!
Handles of lock tables. A backend is known by its number; two backends with the same number are
the same table. Its settings are fixed when it is made.
-/

namespace TransactionKit

/-- A lock table, by its number, with its settings. -/
structure Backend where
  id : Nat
  config : LockConfig
deriving DecidableEq, Repr, Inhabited

end TransactionKit
