import TransactionKit.Collection.SortedMap
import TransactionKit.Lock.Backend

/-!
Backends by name, so that settings can refer to them. A registry starts with the shared table in
memory under its name; that entry can be replaced or removed like any other.
-/

namespace TransactionKit

/-- Backends by name. -/
structure Registry where
  backends : SortedMap String Backend
deriving Repr, Inhabited

namespace Registry

/-- The name of the shared table in memory. -/
def memoryName : String :=
  "memory"

/-- The registry with nothing but the shared table in memory. -/
def ofShared (shared : Backend) : Registry :=
  ⟨SortedMap.empty.insert memoryName shared⟩

/-- The backend under a name. -/
def lookup (registry : Registry) (name : String) : Option Backend :=
  registry.backends.get? name

/-- Put a backend under a name; the backend that it replaces. -/
def register (registry : Registry) (name : String) (backend : Backend) :
    Option Backend × Registry :=
  (registry.lookup name, ⟨registry.backends.insert name backend⟩)

/-- Remove a name; the backend that was under it. -/
def unregister (registry : Registry) (name : String) : Option Backend × Registry :=
  (registry.lookup name, ⟨registry.backends.erase name⟩)

end Registry

end TransactionKit
