import TransactionKit.Lock.Database
import TransactionKit.Lock.RecordTable
import TransactionKit.Routine

/-!
The world of a scenario: a clock that only moves when someone sleeps or a step is taken, the lock
tables and databases behind backends, and the stores behind connections. It answers every call of
a routine. A backend can be observed by a probe, which logs the calls, makes some of them fail, and
changes a record behind the back of whoever reads it; a store can be told to fail.
-/

namespace TransactionKit.Scenario

/-- The sorts of calls to a backend. -/
inductive CallKind where
  | create
  | read
  | remove
  | request
deriving DecidableEq, Repr, Inhabited

/-- The name of a sort of calls. -/
def CallKind.name : CallKind → String
  | create => "create"
  | read => "read"
  | remove => "remove"
  | request => "lock"

/-- Planned failures: after the next `skip` calls, `count` calls fail. -/
structure Fault where
  skip : Nat
  count : Nat
deriving DecidableEq, Repr, Inhabited

/-- Whether the next call fails, and what is planned after it. -/
def Fault.next (fault : Fault) : Bool × Fault :=
  if 0 < fault.skip then (false, { fault with skip := fault.skip - 1 })
  else (decide (0 < fault.count), { fault with count := fault.count - 1 })

/-- A record that is going to be put in the place of another. -/
structure Swap where
  key : LockKey
  owner : Owner
  ageMs : Int
deriving DecidableEq, Repr, Inhabited

/-- What is observed and planned at a backend. -/
structure Probe where
  /-- The calls since the last look, the oldest first. -/
  log : List String
  faults : CallKind → Fault
  /-- Records that replace the next record read under their key. -/
  swaps : List Swap
  /-- For keys: on which insertion from now, counted from one, the record is removed first. -/
  vacancies : List (LockKey × Nat)

namespace Probe

/-- The probe that has seen nothing and plans nothing. -/
def fresh : Probe :=
  ⟨[], fun _ => ⟨0, 0⟩, [], []⟩

/-- Log a call and see whether it fails. -/
def note (probe : Probe) (kind : CallKind) (line : String) : Except Error Unit × Probe :=
  let (fails, later) := (probe.faults kind).next
  let after :=
    { probe with
      log := probe.log ++ [line]
      faults := fun other => if other = kind then later else probe.faults other }
  (if fails then .error (.storage (kind.name ++ " failed")) else .ok (), after)

/-- Plan failures instead of those that were planned for the same sort of calls. -/
def plan (probe : Probe) (kind : CallKind) (fault : Fault) : Probe :=
  { probe with faults := fun other => if other = kind then fault else probe.faults other }

/-- Count an insertion; whether the record of the key is to be removed before it. -/
def countInsertion (probe : Probe) (key : LockKey) : Bool × Probe :=
  match probe.vacancies.lookup key with
  | none => (false, probe)
  | some left =>
    let others := probe.vacancies.filter fun entry => entry.1 != key
    if left = 1 then (true, { probe with vacancies := others })
    else (false, { probe with vacancies := (key, left - 1) :: others })

/-- The record that replaces one just read under a key, if there is a plan for it. -/
def takeSwap (probe : Probe) (key : LockKey) : Option Swap × Probe :=
  (probe.swaps.find? fun swap => swap.key == key,
    { probe with swaps := probe.swaps.filter fun swap => swap.key != key })

end Probe

/-- Where the records of a backend are. -/
inductive Storage where
  | memory (table : RecordTable)
  | database (number : Nat)
deriving DecidableEq, Repr, Inhabited

/-- What stands behind a backend. -/
structure Site where
  storage : Storage
  probe? : Option Probe

/-- What can be done with connections. -/
inductive ConnectionAct where
  | connect
  | commit
  | rollback
  | close
deriving DecidableEq, Repr, Inhabited

def ConnectionAct.name : ConnectionAct → String
  | connect => "open"
  | commit => "commit"
  | rollback => "rollback"
  | close => "close"

/-- What stands behind a store. -/
structure StoreSite where
  name : String
  ownerId : Nat
  /-- Whether connections have transactions; without them none is handed out. -/
  transactional : Bool
  /-- The number of connections that were asked for. -/
  opened : Nat
  /-- How many of the next acts of each sort fail. -/
  failing : ConnectionAct → Nat

/-- The state of everything outside of routines. -/
structure World where
  time : Int
  sites : List Site
  databases : List Database
  stores : List StoreSite
  /-- What happened to connections since the last look, the oldest first. -/
  events : List String

namespace World

/-- The moment at which scenarios start. -/
def startTime : Int := 1750000000000000000

/-- The world at its start: the shared table in memory is the first backend. -/
def start : World where
  time := startTime
  sites := [⟨.memory .empty, none⟩]
  databases := []
  stores := []
  events := []

/-- The time so many milliseconds ago. -/
def msAgo (world : World) (ms : Int) : Int :=
  world.time - ms * LockConfig.nanosPerMs

/-! ## Backends -/

/-- The failure to find what stands behind a backend. -/
def noSite : Error :=
  .storage "no such backend"

/-- Change the probe of a backend, if it has one. -/
def mapProbe (world : World) (backend : Backend) (f : Probe → Probe) : World :=
  { world with
    sites := world.sites.modify backend.id fun site => { site with probe? := site.probe?.map f } }

def probe? (world : World) (backend : Backend) : Option Probe :=
  world.sites[backend.id]?.bind Site.probe?

/-- Ask the probe of a backend, or have an answer without one. -/
def askProbe {α : Type} (world : World) (backend : Backend) (default : α)
    (question : Probe → α × Probe) : α × World :=
  match world.probe? backend with
  | some probe => ((question probe).1, world.mapProbe backend fun _ => (question probe).2)
  | none => (default, world)

/-- Do something with the records of a backend. -/
def access {α : Type} (world : World) (backend : Backend)
    (inMemory : RecordTable → α × RecordTable)
    (inDatabase : Database → Except Error α × Database) : Except Error α × World :=
  match world.sites[backend.id]? with
  | some ⟨.memory table, probe?⟩ =>
    let (answer, table) := inMemory table
    (.ok answer, { world with sites := world.sites.set backend.id ⟨.memory table, probe?⟩ })
  | some ⟨.database number, _⟩ =>
    match world.databases[number]? with
    | some database =>
      let (answer, database) := inDatabase database
      (answer, { world with databases := world.databases.set number database })
    | none => (.error noSite, world)
  | none => (.error noSite, world)

/-- Insert a record. -/
def create (world : World) (backend : Backend) (record : Record) : Except Error Bool × World :=
  world.access backend (fun table => table.create record) fun database => database.create record

def read (world : World) (backend : Backend) (key : LockKey) :
    Except Error (Option Record) × World :=
  world.access backend (fun table => (table.read key, table))
    fun database => (database.read key, database)

/-- Remove the record of a key. -/
def remove (world : World) (backend : Backend) (key : LockKey) (owner? : Option String) :
    Except Error Bool × World :=
  world.access backend (fun table => table.remove key owner?)
    fun database => database.remove key owner?

/-- The number of records of a backend. -/
def held (world : World) (backend : Backend) : Except Error Nat :=
  match world.sites[backend.id]? with
  | some ⟨.memory table, _⟩ => .ok table.size
  | some ⟨.database number, _⟩ =>
    match world.databases[number]? with
    | some database => database.size
    | none => .error noSite
  | none => .error noSite

/-- Remove the record of a key without a failure. -/
def clearKey (world : World) (backend : Backend) (key : LockKey) : World :=
  (world.remove backend key none).2

/-- Put a record in the place of the one under its key. -/
def replace (world : World) (backend : Backend) (swap : Swap) : World :=
  let record := Record.of swap.key swap.owner (world.msAgo swap.ageMs)
  ((world.clearKey backend swap.key).create backend record).2

/-- A call to an observed backend: it is logged, may fail, and is then made. -/
def observed {α : Type} (world : World) (backend : Backend) (kind : CallKind) (line : String)
    (make : World → Except Error α × World) : Except Error α × World :=
  match world.askProbe backend (.ok ()) fun probe => probe.note kind line with
  | (.ok (), world) => make world
  | (.error e, world) => (.error e, world)

/-- Insert a record under observation. -/
def observedCreate (world : World) (backend : Backend) (record : Record) :
    Except Error Bool × World :=
  world.observed backend .create ("create " ++ record.key.text) fun world =>
    match world.askProbe backend false fun probe => probe.countInsertion record.key with
    | (true, world) => (world.clearKey backend record.key).create backend record
    | (false, world) => world.create backend record

/-- Read a record under observation. -/
def observedRead (world : World) (backend : Backend) (key : LockKey) :
    Except Error (Option Record) × World :=
  world.observed backend .read ("read " ++ key.text) fun world =>
    match world.read backend key with
    | (.ok (some record), world) =>
      match world.askProbe backend none fun probe => probe.takeSwap key with
      | (some swap, world) => (.ok (some record), world.replace backend swap)
      | (none, world) => (.ok (some record), world)
    | other => other

/-- Remove a record under observation. -/
def observedRemove (world : World) (backend : Backend) (key : LockKey) (owner? : Option String) :
    Except Error Bool × World :=
  let suffix := if owner?.isSome then " owned" else " any"
  world.observed backend .remove ("remove " ++ key.text ++ suffix) fun world =>
    world.remove backend key owner?

/-! ## Stores -/

/-- Note an act on a connection of a store and see whether it fails. -/
def connectionAct (world : World) (store : Store) (serial : Nat) (act : ConnectionAct) :
    Except Error Unit × World :=
  match world.stores[store.id]? with
  | none => (.error (.connection "no such store"), world)
  | some site =>
    let line := site.name ++ "#" ++ toString serial ++ " " ++ act.name
    let failing := fun other =>
      if other = act then site.failing act - 1 else site.failing other
    let after :=
      { world with
        stores := world.stores.set store.id { site with failing := failing }
        events := world.events ++ [line] }
    if 0 < site.failing act then (.error (.connection (line ++ " failed")), after)
    else (.ok (), after)

/-- Open a connection of a store. -/
def connect (world : World) (store : Store) : Except Error (Option Connection) × World :=
  match world.stores[store.id]? with
  | none => (.error (.connection "no such store"), world)
  | some site =>
    let serial := site.opened + 1
    let counted :=
      { world with stores := world.stores.set store.id { site with opened := serial } }
    match counted.connectionAct store serial .connect with
    | (.ok (), after) => (.ok (if site.transactional then some ⟨store, serial⟩ else none), after)
    | (.error e, after) => (.error e, after)

/-! ## Calls -/

/-- The meaning of every call. -/
def answer : Handler World
  | .request backend key, world =>
    world.observed backend .request ("lock " ++ key.text) fun world => (.ok (), world)
  | .create backend record, world => world.observedCreate backend record
  | .read backend key, world => world.observedRead backend key
  | .remove backend key owner?, world => world.observedRemove backend key owner?
  | .now, world => (world.time, world)
  | .sleep nanos, world => ((), { world with time := world.time + nanos })
  | .connect store, world => world.connect store
  | .commit connection, world => world.connectionAct connection.store connection.serial .commit
  | .rollback connection, world => world.connectionAct connection.store connection.serial .rollback
  | .close connection, world => world.connectionAct connection.store connection.serial .close

end World

end TransactionKit.Scenario
