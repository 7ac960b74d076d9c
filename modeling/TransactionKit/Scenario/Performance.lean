import TransactionKit.Scenario.Stage

/-!
The performance of a script: what each step does on the stage and what is replied to it. After the
last step the scopes, the locks and the bundles that are left are given up, in the order of their
names, and what can be seen then is the end of the performance.
-/

namespace TransactionKit.Scenario

open Acting

/-! ## Backends and databases -/

/-- The number of the database in a file. A file whose name has a slash cannot be opened. -/
def openFile (name : String) : Acting Nat := do
  if name.toList.contains '/' then throw (.failure Database.cannotOpen)
  databaseNamed name

/-- Make a backend and bind a name to it. -/
def makeBackend (name : String) : BackendForm → Acting Reply
  | .memory config => do
    settle config.validate
    bindBackend name config (.memory .empty)
    return .none
  | .privateDatabase config => do
    settle config.validate
    let number := (← get).world.databases.length
    modify fun stage =>
      { stage with
        world := { stage.world with
          databases := stage.world.databases ++ [Database.readable (some [])] } }
    bindBackend name config (.database number)
    return .none
  | .file fileName config => do
    let number ← openFile fileName
    settle config.validate
    changeDatabase number Database.prepare
    bindBackend name config (.database number)
    return .none
  | .shared => do
    modify fun stage => { stage with backends := stage.backends.insert name Stage.shared }
    return .none

/-- A record as a reply shows it. -/
def recordReply (backend : Backend) : Option Record → Acting Reply
  | none => return .none
  | some record => do
    let stage ← get
    return .record {
      key := record.key.text
      owner := stage.tokenName record.owner
      description := record.description
      ageSeconds := record.age stage.world.time / 1000000000
      stale := record.isStale backend.config.maxLockAge stage.world.time
    }

/-- The summary of a backend on a database, or the settings of one in memory. -/
def backendSummary (backend : Backend) : Acting Reply := do
  match (← get).world.sites[backend.id]? with
  | some ⟨.database _, _⟩ => return .text (Database.backendSummary backend.config)
  | _ => return .text backend.config.summary

def changeProbe (backend : Backend) (f : Probe → Probe) : Acting Reply := do
  modify fun stage => { stage with world := stage.world.mapProbe backend f }
  return .none

/-- Do something with a backend. -/
def onBackend (backend : Backend) : BackendAct → Acting Reply
  | .create key owner ageMs => do
    let record := Record.of key (← ownerNamed owner) ((← get).world.msAgo ageMs)
    return .flag (← playOrFail (Routine.create backend record))
  | .lock key owner timeout => do
    playOrFail (backend.lock patience key (← ownerNamed owner) timeout)
    return .none
  | .release key owner => do
    return .flag (← playOrFail (backend.release key (← ownerNamed owner)))
  | .isHeld key => do
    return .flag (← playOrFail (backend.isHeld key))
  | .isHeldBy key owner => do
    return .flag (← playOrFail (backend.isHeldBy key (← ownerNamed owner)))
  | .read key => do
    recordReply backend (← playOrFail (Routine.read backend key))
  | .evict key => do
    recordReply backend (← playOrFail (backend.evictStale key))
  | .remove key owner? => do
    let owner? ← owner?.mapM ownerNamed
    return .flag (← playOrFail (Routine.remove backend key (owner?.map Owner.token)))
  | .plan kind fault => changeProbe backend fun probe => probe.plan kind fault
  | .swap key owner ageMs => do
    let swap := Swap.mk key (← ownerNamed owner) ageMs
    changeProbe backend fun probe =>
      { probe with swaps := swap :: probe.swaps.filter fun other => other.key != key }
  | .vacate key count =>
    changeProbe backend fun probe =>
      { probe with
        vacancies := (key, count) :: probe.vacancies.filter fun other => other.1 != key }
  | .calls => do
    let log := ((← get).world.probe? backend).elim [] Probe.log
    let _ ← changeProbe backend fun probe => { probe with log := [] }
    return .texts log
  | .summary => backendSummary backend

/-- What went wrong in a database, without saying that it is a failure of storage. -/
def plainText : Refusal → Refusal
  | .failure (.storage reason) => .misuse reason
  | other => other

/-- Do something with a database behind the back of the backends on it. -/
def onDatabase (name : String) (act : DatabaseAct) : Acting Reply := do
  let number ← tryCatch (openFile name) (throw ∘ plainText)
  match act with
  | .insertRow row =>
    tryCatch (changeDatabase number fun database => database.addRow row) (throw ∘ plainText)
    return .number 1
  | .execute text =>
    match Database.Statement.ofText? text with
    | some statements =>
      for statement in statements do
        tryCatch (changeDatabase number fun database => database.execute statement)
          (throw ∘ plainText)
      return .none
    | none => misuse "no such statement"
  | .spoil =>
    changeDatabase number fun _ => .ok .foreign
    return .none

/-! ## The registry -/

/-- What a backend is called, if there is one. -/
def labelReply (backend? : Option Backend) : Acting Reply := do
  let stage ← get
  return (backend?.bind stage.label?).elim .none .text

def register (name backend : String) : Acting Reply := do
  let backend ← backendNamed backend
  let (old?, registry) := (← get).registry.register name backend
  modify fun stage => { stage with registry := registry }
  labelReply old?

/-- Remove a name from the registry. -/
def unregister (name : String) : Acting Reply := do
  let (old?, registry) := (← get).registry.unregister name
  modify fun stage => { stage with registry := registry }
  labelReply old?

/-! ## Transaction locks -/

/-- The backend of a new lock. -/
def sourceBackend : LockSource → Acting Backend
  | .named backend => backendNamed backend
  | .registered name => do
    match (← get).registry.lookup name with
    | some backend => return backend
    | none => misuse ("no strategy " ++ name)

/-- Make a transaction lock and bind a name to it. -/
def makeLock (name : String) (plan : LockPlan) : Acting Reply := do
  let backend ← sourceBackend plan.source
  let stage ← get
  let description := plan.description?.getD ("thread " ++ stage.thread)
  let build := fun owner =>
    match plan.coverage with
    | .keys keys => .ok (TransactionLock.ofKeys backend owner plan.relaxed keys)
    | .entities entities =>
      TransactionLock.ofEntities backend owner plan.relaxed stage.types entities
  let lock ← settle (build (← issueOwner ("lock:" ++ name) description))
  bindLock name lock
  return .texts (lock.keys.map LockKey.text)

/-- A transaction lock whose owner is shown by its name. -/
def shownLock (stage : Stage) (lock : TransactionLock) : TransactionLock :=
  lock.withOwner (stage.unmasked lock.owner)

/-- A timeout in milliseconds. -/
def timeoutMs : Timeout → Nat
  | .after nanos => nanos / LockConfig.nanosPerMs
  | .never => 0

/-- What there is to know about a transaction lock. -/
def lockInfo (stage : Stage) (lock : TransactionLock) : LockInfo :=
  let current := lock.current
  { keys := lock.keys.map LockKey.text
    state := lock.state
    relaxed := lock.relaxed
    owner := lock.owner.description
    currentKeys := current.keys.map LockKey.text
    currentRelaxed := current.relaxed
    currentOwner := current.owner.description
    currentTimeout := current.defaultTimeout.map timeoutMs
    summary := (shownLock stage lock).summary }

/-- Run a routine that changes the transaction lock of a name. -/
def playOnLock {α : Type} (name : String)
    (routine : TransactionLock → Routine (α × TransactionLock)) : Acting α := do
  let (answer, lock) ← play (routine (← lockNamed name))
  updateLock name lock
  return answer

/-- Do something with the transaction lock of a name. -/
def onLock (name : String) : LockAct → Acting Reply
  | .lock timeout => do
    settle (← playOnLock name fun lock => lock.lock patience timeout)
    return .none
  | .lockDefault => do
    settle (← playOnLock name fun lock => lock.lockDefault patience)
    return .none
  | .defaultTimeout => do
    let timeout ← settle (← lockNamed name).defaultTimeout
    return .text (toString (timeoutMs timeout))
  | .release => do
    playOnLock name fun lock => do return ((), ← lock.release)
    return .none
  | .drop => do
    play (← takeLock name).discard
    return .none
  | .isLocked => do
    return .flag (← playOnLock name TransactionLock.isLocked)
  | .pushNested inner => do
    let inner ← takeLock inner
    match (← get).locks.get? name with
    | some outer =>
      let (answer, outer) ← play (outer.pushNested inner)
      updateLock name outer
      settle answer
      return .none
    | none =>
      play inner.discard
      misuse ("no lock " ++ name)
  | .popNested name? => do
    match ← playOnLock name TransactionLock.popNested with
    | none => return .none
    | some inner =>
      match name? with
      | some other => bindLock other inner
      | none => play inner.discard
      return .text inner.state.name
  | .info => do
    let lock ← lockNamed name
    return .info (lockInfo (← get) lock)
  | .object key => do
    let lock ← lockNamed name
    return .object ⟨lock.covers key, lock.object? key⟩

/-! ## Stores, bundles and scopes -/

/-- Make a store and bind a name to it. -/
def makeStore (name : String) (plan : StorePlan) : Acting Reply := do
  modify fun stage =>
    let site : StoreSite := ⟨name, plan.ownerId, plan.transactional, 0, plan.failing⟩
    let store : Store := ⟨stage.world.stores.length, plan.ownerId⟩
    { stage with
      world := { stage.world with stores := stage.world.stores ++ [site] }
      stores := stage.stores.insert name store }
  return .none

/-- The reply to a result without content. -/
def unitReply : Except Error Unit → Reply
  | .ok () => .none
  | .error e => .failure e

/-- The reply to a result that is true or false. -/
def flagReply : Except Error Bool → Reply
  | .ok b => .flag b
  | .error e => .failure e

/-- The reply to an act on a bundle, and the bundle after it. -/
def bundleReply (bundle : Bundle) : BundleAct → Acting (Reply × Bundle)
  | .encapsulate store => do
    let (answer, bundle) ← play (bundle.encapsulate (← storeNamed store))
    return (flagReply answer, bundle)
  | .commit => do
    return (unitReply (← play bundle.commit), bundle)
  | .rollback => do
    return (unitReply (← play bundle.rollback), bundle)
  | .closeAll => do
    return (.none, ← play bundle.closeAll)
  | .contains ownerId => return (.flag (bundle.contains ownerId), bundle)
  | .unknown act => misuse ("act " ++ act)

/-- Do something with the bundle of a name. -/
def onBundle (name : String) (act : BundleAct) : Acting Reply := do
  let bundle := ((← get).bundles.get? name).getD .empty
  let keep := fun (after : Bundle) =>
    modify fun stage => { stage with bundles := stage.bundles.insert name after }
  keep bundle
  let (reply, after) ← bundleReply bundle act
  keep after
  return .bundle reply after

/-- Run a routine that changes a scope; what it answers and the scope after it. -/
def playOnScope {α : Type} (routine : Routine (Except Error α × Scope)) (reply : α → Reply) :
    Acting (Reply × Scope) := do
  let (answer, scope) ← play routine
  match answer with
  | .ok a => return (reply a, scope)
  | .error e => return (.failure e, scope)

/-- The reply to an act on a scope, and the scope after it. -/
def scopeReply (scope : Scope) : ScopeAct → Acting (Reply × Scope)
  | .acquire lock timeout => do
    playOnScope (scope.acquire patience timeout (← takeLock lock)) fun _ => .none
  | .acquireDefault lock => do
    playOnScope (scope.acquireDefault patience (← takeLock lock)) fun _ => .none
  | .encapsulate store => do
    playOnScope (scope.encapsulate (← storeNamed store)) .flag
  | .commit => do
    return (unitReply (← play scope.commit), scope)
  | .rollback => do
    return (unitReply (← play scope.rollback), scope)
  | .commitAndRelease => playOnScope scope.commitAndRelease fun _ => .none
  | .rollbackAndRelease => playOnScope scope.rollbackAndRelease fun _ => .none
  | .release => do
    return (.none, ← play scope.release)
  | .clear => do
    return (.none, ← play scope.clear)
  | .current => return (scope.current?.elim .none fun lock => .texts (lock.keys.map LockKey.text),
      scope)
  | .summary => do
    let shown := { scope with base? := scope.base?.map (shownLock (← get)) }
    return (.text shown.summary, scope)
  | .drop => misuse "act drop"
  | .unknown act => misuse ("act " ++ act)

/-- Make sure that what an act on a scope names is there. -/
def requireNamed : ScopeAct → Acting Unit
  | .acquire lock _ | .acquireDefault lock => discard (lockNamed lock)
  | .encapsulate store => discard (storeNamed store)
  | _ => pure ()

/-- Do something with the scope of a name, which is made if everything else that is named is
there. -/
def onScope (name : String) (act : ScopeAct) : Acting Reply := do
  let scope := ((← get).scopes.get? name).getD .empty
  let keep := fun (after : Scope) =>
    modify fun stage => { stage with scopes := stage.scopes.insert name after }
  if act = .drop then
    modify fun stage => { stage with scopes := stage.scopes.erase name }
    play scope.discard
    return .none
  requireNamed act
  keep scope
  let (reply, after) ← scopeReply scope act
  keep after
  return reply

/-- Do something with the pool of the current thread. -/
def onPool (act : ScopeAct) : Acting Reply := do
  let (reply, after) ← scopeReply (← get).pool act
  modify fun stage => { stage with pool := after }
  return reply

/-! ## Steps -/

/-- An owner as messages show it, by its name. -/
def showOwner (name : String) : Acting Reply := do
  let owner ← ownerNamed name
  return .owner owner.description ((← get).unmasked owner).display

/-- Give up the pool of the current thread. -/
def leaveThread : Acting Unit := do
  play (← get).pool.discard

/-- Run an activity on the stage. -/
def act (activity : Acting Reply) (stage : Stage) : Reply × Stage :=
  match activity.run stage with
  | (.ok reply, stage) => (reply, stage)
  | (.error refusal, stage) => (refusal.reply, stage)

/-- Run an activity that has nothing to tell. -/
def settleStage (activity : Acting Unit) (stage : Stage) : Stage :=
  (activity.run stage).2

mutual

/-- Perform a step. A thread starts with an empty pool, which is given up at its end. -/
def perform : Step → Stage → Reply × Stage
  | .makeBackend name form, stage => act (makeBackend name form) stage
  | .onBackend name deed, stage =>
    act (do onBackend (← backendNamed name) deed) stage
  | .onDatabase name deed, stage => act (onDatabase name deed) stage
  | .register name backend, stage => act (register name backend) stage
  | .unregister name, stage => act (unregister name) stage
  | .lookup name, stage => act (labelReply (stage.registry.lookup name)) stage
  | .makeLock name plan, stage => act (makeLock name plan) stage
  | .onLock name deed, stage => act (onLock name deed) stage
  | .makeStore name plan, stage => act (makeStore name plan) stage
  | .onBundle name deed, stage => act (onBundle name deed) stage
  | .onScope name deed, stage => act (onScope name deed) stage
  | .onPool deed, stage => act (onPool deed) stage
  | .showOwner name, stage => act (showOwner name) stage
  | .onThread name steps, stage =>
    let (answers, inner) := performAll steps { stage with thread := name, pool := .empty }
    let after := settleStage leaveThread inner
    (.thread answers, { after with thread := stage.thread, pool := stage.pool })
  | .unknown name, stage => (.misuse ("step " ++ name), stage)
  | .malformed reason, stage => (.misuse reason, stage)

/-- Perform steps one after the other, with a look at the stage after each. -/
def performAll : List Step → Stage → List Answer × Stage
  | [], stage => ([], stage)
  | step :: rest, stage =>
    let (reply, stage) := perform step stage.tick
    let (snapshot, stage) := stage.snapshot
    let (answers, stage) := performAll rest stage
    ((reply, snapshot) :: answers, stage)

end

/-- Give up every scope, lock and bundle that is left. -/
def strike : Acting Unit := do
  let stage ← get
  set { stage with scopes := ∅, locks := ∅, bundles := ∅ }
  for scope in stage.scopes.values do
    play scope.discard
  for lock in stage.locks.values do
    play lock.discard

/-- Perform a script; the answers to its steps and what can be seen at the end. -/
def performScript (types : EntityTypes) (steps : List Step) : List Answer × Snapshot :=
  let (answers, stage) := performAll steps (.start types)
  (answers, (settleStage strike stage).snapshot.1)

end TransactionKit.Scenario
