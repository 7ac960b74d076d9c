import TransactionKit.Lock.Database.Statement
import TransactionKit.Scenario.World
import TransactionKit.Transaction.Scope

/-!
Scripts: steps on named backends, locks, scopes, bundles and stores, and the replies to them. A
name is bound by the step that makes the thing; scopes, bundles and owners are made when they are
first named. An owner name that starts with `lock:` means the owner of the transaction lock whose
name follows. Steps also run on threads, each of which has a scope of its own as its pool.
-/

namespace TransactionKit.Scenario

/-- What a new backend is. -/
inductive BackendForm where
  | memory (config : LockConfig)
  /-- A database that nothing else can reach. -/
  | privateDatabase (config : LockConfig)
  /-- A database file, shared by all backends on it. -/
  | file (name : String) (config : LockConfig)
  /-- The shared table in memory, which is never observed. -/
  | shared
deriving DecidableEq, Repr, Inhabited

/-- What to do with a backend. -/
inductive BackendAct where
  | create (key : LockKey) (owner : String) (ageMs : Int)
  | lock (key : LockKey) (owner : String) (timeout : Timeout)
  | release (key : LockKey) (owner : String)
  | isHeld (key : LockKey)
  | isHeldBy (key : LockKey) (owner : String)
  | read (key : LockKey)
  | evict (key : LockKey)
  | remove (key : LockKey) (owner? : Option String)
  | plan (kind : CallKind) (fault : Fault)
  | swap (key : LockKey) (owner : String) (ageMs : Int)
  | vacate (key : LockKey) (count : Nat)
  | calls
  | summary
deriving DecidableEq, Repr, Inhabited

/-- What to do with a database behind the back of the backends on it. -/
inductive DatabaseAct where
  | insertRow (row : Row)
  /-- Run the statements in a text. -/
  | execute (statements : String)
  /-- Write something into the file that is no database. -/
  | spoil
deriving DecidableEq, Repr, Inhabited

/-- Where a new transaction lock acquires its keys. -/
inductive LockSource where
  | named (backend : String)
  | registered (name : String)
deriving DecidableEq, Repr, Inhabited

/-- What a new transaction lock covers. -/
inductive Coverage where
  | keys (keys : List LockKey)
  | entities (entities : List Entity)
deriving Repr, Inhabited

/-- How to make a transaction lock. Its owner is described by the thread unless a description is
given. -/
structure LockPlan where
  source : LockSource
  coverage : Coverage
  relaxed : Bool
  description? : Option String
deriving Repr, Inhabited

/-- What to do with a transaction lock. -/
inductive LockAct where
  | lock (timeout : Timeout)
  | lockDefault
  | defaultTimeout
  | release
  | drop
  | isLocked
  | pushNested (inner : String)
  | popNested (name? : Option String)
  | info
  | object (key : LockKey)
deriving DecidableEq, Repr, Inhabited

/-- What to do with a bundle. -/
inductive BundleAct where
  | encapsulate (store : String)
  | commit
  | rollback
  | closeAll
  | contains (ownerId : Nat)
  | unknown (name : String)
deriving DecidableEq, Repr, Inhabited

/-- What to do with a scope. -/
inductive ScopeAct where
  | acquire (lock : String) (timeout : Timeout)
  | acquireDefault (lock : String)
  | encapsulate (store : String)
  | commit
  | rollback
  | commitAndRelease
  | rollbackAndRelease
  | release
  | clear
  | current
  | summary
  | drop
  | unknown (name : String)
deriving DecidableEq, Repr, Inhabited

/-- How to make a store: how many of the first acts of each sort fail. -/
structure StorePlan where
  ownerId : Nat
  transactional : Bool
  failing : ConnectionAct → Nat

/-- A step of a script. -/
inductive Step where
  | makeBackend (name : String) (form : BackendForm)
  | onBackend (name : String) (act : BackendAct)
  | onDatabase (name : String) (act : DatabaseAct)
  | register (name backend : String)
  | unregister (name : String)
  | lookup (name : String)
  | makeLock (name : String) (plan : LockPlan)
  | onLock (name : String) (act : LockAct)
  | makeStore (name : String) (plan : StorePlan)
  | onBundle (name : String) (act : BundleAct)
  | onScope (name : String) (act : ScopeAct)
  | onPool (act : ScopeAct)
  | showOwner (owner : String)
  /-- Run steps on a thread of their own and wait for its end. -/
  | onThread (name : String) (steps : List Step)
  | unknown (name : String)
  /-- A step that cannot be read, and why. -/
  | malformed (reason : String)
deriving Inhabited

/-- A record as a reply shows it. -/
structure RecordView where
  key : String
  owner : String
  description : String
  ageSeconds : Nat
  stale : Bool
deriving DecidableEq, Repr, Inhabited

/-- A transaction lock and its innermost lock as a reply shows them. -/
structure LockInfo where
  keys : List String
  state : LockState
  relaxed : Bool
  owner : String
  currentKeys : List String
  currentRelaxed : Bool
  currentOwner : String
  currentTimeout : Except Error Nat
  summary : String

/-- The entity of a key as a reply shows it. -/
structure ObjectView where
  covered : Bool
  entity? : Option Entity
deriving Repr, Inhabited

/-- A scope at a glance: whether it is active, its depth, and the number of its connections. -/
structure ScopeView where
  active : Bool
  depth : Nat
  connections : Nat
deriving DecidableEq, Repr, Inhabited

/-- A transaction lock at a glance: its state, the number of its keys, and its depth. -/
structure LockView where
  state : LockState
  keys : Nat
  depth : Nat
deriving DecidableEq, Repr, Inhabited

/-- What can be seen after a step. -/
structure Snapshot where
  /-- The number of records of each observed backend. -/
  held : List (String × Except Error Nat)
  locks : List (String × LockView)
  scopes : List (String × ScopeView)
  pool : ScopeView
  /-- What happened to connections since the last snapshot. -/
  events : List String

/-- The reply to a step. -/
inductive Reply where
  /-- Nothing to tell. -/
  | none
  | flag (b : Bool)
  | number (n : Int)
  | text (s : String)
  | texts (ss : List String)
  | record (view : RecordView)
  | owner (description display : String)
  | info (info : LockInfo)
  | object (view : ObjectView)
  /-- The reply to an act on a bundle, and the bundle after it. -/
  | bundle (reply : Reply) (after : Bundle)
  | failure (e : Error)
  /-- The step makes no sense. -/
  | misuse (message : String)
  | thread (answers : List (Reply × Snapshot))

/-- The reply to a step and what can be seen after it. -/
abbrev Answer := Reply × Snapshot

end TransactionKit.Scenario
