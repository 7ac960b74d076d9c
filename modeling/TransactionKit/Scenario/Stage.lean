import TransactionKit.Lock.Registry
import TransactionKit.Scenario.Script

/-!
The stage of a scenario: its world, and what the names of its script are bound to. `Acting` is the
activity of one step: it may change the stage, run routines in the world, and stop with a failure.
-/

namespace TransactionKit.Scenario

/-- Why a step stops. -/
inductive Refusal where
  | failure (e : Error)
  /-- The step makes no sense. -/
  | misuse (message : String)
deriving DecidableEq, Repr, Inhabited

/-- The reply to a step that stops. -/
def Refusal.reply : Refusal → Reply
  | failure e => .failure e
  | misuse message => .misuse message

/-- Everything that the steps of a script act on. -/
structure Stage where
  world : World
  types : EntityTypes
  /-- The number of owners that were made. -/
  owners : Nat
  named : SortedMap String Owner
  /-- What owner tokens are called. -/
  tokens : List (String × String)
  backends : SortedMap String Backend
  registry : Registry
  databases : SortedMap String Nat
  locks : SortedMap String TransactionLock
  stores : SortedMap String Store
  bundles : SortedMap String Bundle
  scopes : SortedMap String Scope
  /-- The name of the current thread. -/
  thread : String
  /-- The scope of the current thread. -/
  pool : Scope

namespace Stage

/-- The shared table in memory. -/
def shared : Backend :=
  ⟨0, {}⟩

/-- The stage before the first step. -/
def start (types : EntityTypes) : Stage where
  world := .start
  types := types
  owners := 0
  named := ∅
  tokens := []
  backends := ∅
  registry := .ofShared shared
  databases := ∅
  locks := ∅
  stores := ∅
  bundles := ∅
  scopes := ∅
  thread := "main"
  pool := .empty

/-- What an owner token is called; an unknown one is its own name. -/
def tokenName (stage : Stage) (token : String) : String :=
  (stage.tokens.lookup token).getD token

/-- An owner whose token is replaced by its name in angle brackets. -/
def unmasked (stage : Stage) (owner : Owner) : Owner :=
  { owner with token := "<" ++ stage.tokenName owner.token ++ ">" }

/-- What a backend is called: the name that is bound to it now, if there is one. The shared table
is called the same under every name. -/
def label? (stage : Stage) (backend : Backend) : Option String :=
  if backend.id = shared.id then some "<shared>"
  else (stage.backends.entries.find? fun entry => entry.2.id == backend.id).map Prod.fst

/-- A scope at a glance. -/
def scopeView (scope : Scope) : ScopeView :=
  ⟨scope.isActive, scope.depth, scope.connections.size⟩

/-- What can be seen, and the stage after looking. -/
def snapshot (stage : Stage) : Snapshot × Stage :=
  ({ held := (stage.backends.entries.filter fun entry => entry.2.id != shared.id).map fun entry =>
        (entry.1, stage.world.held entry.2)
     locks := stage.locks.entries.map fun entry =>
        (entry.1, ⟨entry.2.state, entry.2.keys.length, entry.2.depth⟩)
     scopes := stage.scopes.entries.map fun entry => (entry.1, scopeView entry.2)
     pool := scopeView stage.pool
     events := stage.world.events },
    { stage with world := { stage.world with events := [] } })

/-- The stage a moment later: a microsecond goes by between two steps. -/
def tick (stage : Stage) : Stage :=
  { stage with world := { stage.world with time := stage.world.time + 1000 } }

end Stage

/-- The activity of a step. -/
abbrev Acting := ExceptT Refusal (StateM Stage)

namespace Acting

/-- Stop, since the step makes no sense. -/
def misuse {α : Type} (message : String) : Acting α :=
  throw (.misuse message)

/-- Go on with a result, or stop with a failure. -/
def settle {α : Type} : Except Error α → Acting α
  | .ok a => pure a
  | .error e => throw (.failure e)

/-- How many rounds a loop that polls may have. -/
def patience : Nat := 1000000

/-- Run a routine in the world. -/
def play {α : Type} (routine : Routine α) : Acting α := do
  let stage ← get
  let (result?, world) := routine.run World.answer stage.world
  set { stage with world := world }
  match result? with
  | some a => return a
  | none => misuse "out of rounds"

/-- Run a routine that can fail. -/
def playOrFail {α : Type} (routine : Routine (Except Error α)) : Acting α := do
  settle (← play routine)

/-- Make an owner that is called by a name. -/
def issueOwner (name description : String) : Acting Owner := do
  let stage ← get
  let owner := Owner.ofSerial stage.owners description
  set { stage with owners := stage.owners + 1, tokens := (owner.token, name) :: stage.tokens }
  return owner

def lockNamed (name : String) : Acting TransactionLock := do
  match (← get).locks.get? name with
  | some lock => return lock
  | none => misuse ("no lock " ++ name)

/-- The transaction lock of a name, which is unbound. -/
def takeLock (name : String) : Acting TransactionLock := do
  let lock ← lockNamed name
  modify fun stage => { stage with locks := stage.locks.erase name }
  return lock

/-- Bind a name to a transaction lock that is bound to it already, in a later state. -/
def updateLock (name : String) (lock : TransactionLock) : Acting Unit :=
  modify fun stage => { stage with locks := stage.locks.insert name lock }

/-- Bind a name to a transaction lock; one that was bound to it is given up. -/
def bindLock (name : String) (lock : TransactionLock) : Acting Unit := do
  let old? := (← get).locks.get? name
  updateLock name lock
  match old? with
  | some old => play old.discard
  | none => pure ()

/-- What the name of the owner of a transaction lock starts with. -/
def lockOwnerMark : List Char :=
  "lock:".toList

/-- The owner of a name: of a transaction lock, or one made when it is first named. -/
def ownerNamed (name : String) : Acting Owner := do
  if lockOwnerMark.isPrefixOf name.toList then
    return (← lockNamed (String.ofList (name.toList.drop lockOwnerMark.length))).owner
  else
    match (← get).named.get? name with
    | some owner => return owner
    | none =>
      let owner ← issueOwner name name
      modify fun stage => { stage with named := stage.named.insert name owner }
      return owner

def backendNamed (name : String) : Acting Backend := do
  match (← get).backends.get? name with
  | some backend => return backend
  | none => misuse ("no strategy " ++ name)

def storeNamed (name : String) : Acting Store := do
  match (← get).stores.get? name with
  | some store => return store
  | none => misuse ("no store " ++ name)

/-- The number of the database of a name, which is made when it is first named. -/
def databaseNamed (name : String) : Acting Nat := do
  let stage ← get
  match stage.databases.get? name with
  | some number => return number
  | none =>
    let number := stage.world.databases.length
    set { stage with
      databases := stage.databases.insert name number
      world := { stage.world with databases := stage.world.databases ++ [Database.empty] } }
    return number

def changeDatabase (number : Nat) (change : Database → Except Error Database) : Acting Unit := do
  let stage ← get
  match stage.world.databases[number]? with
  | none => misuse "no such database"
  | some database =>
    let database ← settle (change database)
    set { stage with
      world := { stage.world with databases := stage.world.databases.set number database } }

/-- Add what stands behind a backend, and bind a name to the backend. -/
def bindBackend (name : String) (config : LockConfig) (storage : Storage) : Acting Unit :=
  modify fun stage =>
    let id := stage.world.sites.length
    { stage with
      world := { stage.world with sites := stage.world.sites ++ [⟨storage, some .fresh⟩] }
      backends := stage.backends.insert name ⟨id, config⟩ }

end Acting

end TransactionKit.Scenario
