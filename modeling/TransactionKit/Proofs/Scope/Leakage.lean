import TransactionKit.Proofs.Scope.Custody

/-!
No lock record leaks from a scope. Locks are built, locked, released, checked and nested in one
another outside of the scope, and handed over to it in whatever state they are; the scope goes
through its operations and may be dropped; in between, other clients remove any record and insert
records of other owners (`Site.Step`). In every run, the records of all locks that were ever handed
over are under the keys of the base lock, and where nothing has happened to them from outside, the
base lock has the record of each of its keys (`Site.Run.noLeak`).
-/

namespace TransactionKit

open Routine Tables TransactionLock

/-- What can be done with a lock outside of the scope. -/
inductive LockHandling where
  | lock (rounds : Nat) (timeout? : Option Timeout)
  | release
  | isLocked
  | popNested
  | discard

/-- How it is done; the locks that there are afterwards. -/
def LockHandling.routine (this : TransactionLock) :
    LockHandling → Routine (List TransactionLock)
  | lock rounds timeout? => do
    let (_, after) ← this.lockWithin rounds timeout?
    return [after]
  | release => do
    let after ← this.release
    return [after]
  | isLocked => do
    let (_, after) ← this.isLocked
    return [after]
  | popNested => do
    let (inner?, outer) ← this.popNested
    return outer :: inner?.toList
  | discard => do
    this.discard
    return []

/-- A scope and the locks around it: those elsewhere, those that were handed over to the scope as
they were then, and the tokens that were given to locks. -/
structure Site where
  tables : Tables
  scope? : Option Scope
  loose : List TransactionLock
  handed : List TransactionLock
  issued : List String

namespace Site

/-- The base lock of the scope. -/
def base? (site : Site) : Option TransactionLock :=
  site.scope?.bind Scope.base?

/-- A token that no lock and no record has. -/
def Unused (site : Site) (token : String) : Prop :=
  token ∉ site.issued ∧
    ∀ n key record, site.tables.read n key = some record → record.owner ≠ token

/-- What happens: an operation of the scope with its calls, or something else, if it is done with a
lock under the token of that. -/
inductive Event where
  | performed (trace : List (Moment Tables))
  | happened (actor? : Option String) (before after : Tables)

/-- What happens at a site. -/
inductive Step : Site → Event → Site → Prop where
  | build {site : Site} (backend : Backend) (owner : Owner) (relaxed : Bool)
      (objects : List (LockKey × Option Entity)) (unused : site.Unused owner.token) :
      Step site (.happened none site.tables site.tables)
        { site with
          loose := ofObjects backend owner relaxed objects :: site.loose
          issued := owner.token :: site.issued }
  | describe {site : Site} {lock : TransactionLock} {rest : List TransactionLock} (owner : Owner)
      (loose : site.loose.Perm (lock :: rest)) (unlocked : lock.state = .created)
      (unused : site.Unused owner.token) :
      Step site (.happened none site.tables site.tables)
        { site with loose := lock.withOwner owner :: rest, issued := owner.token :: site.issued }
  | handle {site : Site} {lock : TransactionLock} {rest left : List TransactionLock}
      {trace : List (Moment Tables)} {t : Tables} (handling : LockHandling)
      (loose : site.loose.Perm (lock :: rest))
      (performed : Performs answers site.tables (handling.routine lock) trace left t) :
      Step site (.happened (some lock.owner.token) site.tables t)
        { site with tables := t, loose := left ++ rest }
  | nest {site : Site} {outer inner after : TransactionLock} {rest : List TransactionLock}
      {answer : Except Error Unit} {trace : List (Moment Tables)} {t : Tables}
      (loose : site.loose.Perm (outer :: inner :: rest))
      (performed : Performs answers site.tables (outer.pushNested inner) trace (answer, after) t) :
      Step site (.happened (some inner.owner.token) site.tables t)
        { site with tables := t, loose := after :: rest }
  | operate {site : Site} {scope after : Scope} {rest : List TransactionLock}
      {trace : List (Moment Tables)} {t : Tables} (operation : ScopeOperation)
      {answer : operation.Answer} (held : site.scope? = some scope)
      (loose : site.loose.Perm (operation.lock?.toList ++ rest))
      (performed : Performs answers site.tables (operation.routine scope) trace (answer, after) t) :
      Step site (.performed trace)
        { site with
          tables := t
          scope? := some after
          loose := rest
          handed := operation.lock?.toList ++ site.handed }
  | drop {site : Site} {scope : Scope} {trace : List (Moment Tables)} {t : Tables}
      (held : site.scope? = some scope)
      (performed : Performs answers site.tables scope.discard trace () t) :
      Step site (.performed trace) { site with tables := t, scope? := none }
  | interfere {site : Site} {t : Tables}
      (others : ∀ n key record, t.read n key = some record →
        site.tables.read n key = some record ∨ record.owner ∉ site.issued) :
      Step site (.happened none site.tables t) { site with tables := t }

/-- What has happened since there was an empty scope and no lock yet, the latest first. -/
inductive Run : List Event → Site → Prop where
  | start (tables : Tables) : Run [] ⟨tables, some .empty, [], [], []⟩
  | step {events : List Event} {event : Event} {site after : Site} (run : Run events site)
      (step : Step site event after) : Run (event :: events) after

/-- An event does no harm to the records of a token: in the calls of the scope none of them is stale
by the settings of a lock that was handed over, and nothing else removes one but what is done with
the lock itself. -/
def Event.Leaves (handed : List TransactionLock) (token : String) : Event → Prop
  | performed trace => ∀ lock ∈ handed, ∀ n key record,
    record.owner = token → ¬ lock.Outlives trace n key record
  | happened actor? before after => actor? = some token ∨ ∀ n key record,
    before.read n key = some record → record.owner = token → after.read n key = some record

/-- No event has done harm to the records of a token. -/
def Undisturbed (handed : List TransactionLock) (events : List Event) (token : String) : Prop :=
  ∀ event ∈ events, event.Leaves handed token

/-- That no record leaks. -/
structure NoLeak (events : List Event) (site : Site) : Prop where
  /-- What belongs to a lock that was handed over belongs to the base lock, under a key of it. -/
  belongs : ∀ n key record, site.tables.read n key = some record →
    ∀ lock ∈ site.handed, record.owner = lock.owner.token →
      ∃ base backend, site.base? = some base ∧ record.owner = base.owner.token ∧
        base.backend? = some backend ∧ n = backend.id ∧ key ∈ base.keys
  /-- Without a base lock there is nothing. -/
  vacant : site.base? = none → ∀ lock ∈ site.handed, ∀ n key,
    ¬ site.tables.Held n key lock.owner.token
  /-- Without interference the base lock has all of its keys. -/
  exact : (∀ lock ∈ site.handed, Undisturbed site.handed events lock.owner.token) →
    ∀ base, site.base? = some base → ∃ backend, base.backend? = some backend ∧
      ∀ n key, site.tables.Held n key base.owner.token ↔ n = backend.id ∧ key ∈ base.keys

/-! ## The ledger of a site -/

/-- Nothing has happened to the records of a token, nor to those of a lock that was handed over. -/
def Clean (handed : List TransactionLock) (events : List Event) (token : String) : Prop :=
  Undisturbed handed events token ∧
    ∀ lock ∈ handed, Undisturbed handed events lock.owner.token

variable {handed more locks others left : List TransactionLock} {events : List Event}
  {event : Event} {token : String} {s t : Tables} {lock : TransactionLock}
  {clean : String → Prop} {issued : List String} {trace : List (Moment Tables)}

theorem Undisturbed.earlier (undisturbed : Undisturbed (more ++ handed) (event :: events) token) :
    Undisturbed handed events token := by
  intro other member
  have leaves := undisturbed other (List.mem_cons_of_mem _ member)
  cases other with
  | performed trace => exact fun lock member => leaves lock (List.mem_append_right _ member)
  | happened actor? before after => exact leaves

theorem Clean.earlier (clean : Clean (more ++ handed) (event :: events) token) :
    Clean handed events token :=
  ⟨clean.1.earlier, fun lock member => (clean.2 lock (List.mem_append_right _ member)).earlier⟩

theorem Clean.later (clean : Clean handed (event :: events) token) : Clean handed events token := by
  have more : Clean ([] ++ handed) (event :: events) token := clean
  exact more.earlier

/-- What is done with one lock harms no clean lock but that one. -/
theorem unharmed_of_happened {actor? : Option String}
    (foreign : ∀ lock ∈ locks, actor? ≠ some lock.owner.token) :
    Unharmed (Clean handed (.happened actor? s t :: events)) locks s t := by
  intro lock member clean intact n key holds
  obtain ⟨record, found, own⟩ := intact n key holds
  rcases clean.1 _ List.mem_cons_self with acting | kept
  · exact absurd acting (foreign lock member)
  · exact ⟨record, kept n key record found own, own⟩

/-- In an operation of the scope the clean locks are spared by those that were handed over. -/
theorem spared_of_performed (descends : ∃ source ∈ handed, lock.owner = source.owner ∧
      ∀ backend, lock.backend? = some backend → source.backend? = some backend) :
    Spared (Clean handed (.performed trace :: events)) lock trace := by
  obtain ⟨source, member, owner, own⟩ := descends
  intro token clean
  refine ⟨⟨by rw [owner]; exact clean.2 source member, clean.2⟩, ?_⟩
  rintro n key record mine ⟨backend, same, aged⟩
  exact clean.1 _ List.mem_cons_self source member n key record mine
    ⟨backend, own backend same, aged⟩

/-- Whatever is done with a lock, the locks that there are afterwards are accounted for. -/
theorem balanced_handle {handling : LockHandling}
    (balanced : Balanced clean issued (lock :: others) s)
    (performed : Performs answers s (handling.routine lock) trace left t)
    (unharmed : Unharmed clean others s t) :
    Balanced clean issued (left ++ others) t ∧
      (left.flatMap TransactionLock.tokens).Sublist lock.tokens := by
  have standing := balanced.standing lock List.mem_cons_self
  cases handling with
  | lock rounds timeout? =>
      obtain ⟨⟨answer, after⟩, rfl, locking⟩ := performs_bind_done_iff.mp performed
      obtain ⟨follows, -⟩ := locking.returned (standing.returns_lockWithin rounds timeout?)
      refine ⟨balanced.manage (standing.performs_lockWithin locking) follows unharmed, ?_⟩
      simpa using follows.tokens
  | release =>
      obtain ⟨after, rfl, releasing⟩ := performs_bind_done_iff.mp performed
      obtain ⟨rfl, manages⟩ := standing.performs_release releasing
      refine ⟨balanced.manage manages lock.follows_finished unharmed, ?_⟩
      simpa using lock.follows_finished.tokens
  | isLocked =>
      obtain ⟨⟨valid, after⟩, rfl, checking⟩ := performs_bind_done_iff.mp performed
      obtain ⟨manages, outcome⟩ := standing.performs_isLocked checking
      have follows : lock.Follows after := by
        rcases outcome with ⟨-, -, rfl, -⟩ | ⟨-, -, rfl⟩ | ⟨-, -, rfl⟩
        · exact .refl standing
        · exact lock.follows_finished
        · exact .refl standing
      exact ⟨balanced.manage manages follows unharmed, by simpa using follows.tokens⟩
  | popNested =>
      rcases List.eq_nil_or_concat lock.nested with flat | ⟨outer, inner, nested⟩
      · simp only [LockHandling.routine, popNested_of_nil flat, done_bind] at performed
        obtain ⟨rfl, rfl, rfl⟩ := performs_done_iff.mp performed
        exact ⟨balanced, by simp⟩
      · rw [List.concat_eq_append] at nested
        simp only [LockHandling.routine, standing.popNested_eq nested, done_bind] at performed
        obtain ⟨rfl, rfl, rfl⟩ := performs_done_iff.mp performed
        exact ⟨balanced.popNested nested, by simp [TransactionLock.tokens, nested, finished]⟩
  | discard =>
      obtain ⟨_, rfl, discarding⟩ := performs_bind_done_iff.mp performed
      exact ⟨balanced.discard discarding unharmed, List.nil_sublist _⟩

/-- What holds of every site that is reached: all locks are accounted for, the base lock was handed
over, and no lock that was handed over is elsewhere. -/
structure Kept (events : List Event) (site : Site) : Prop where
  balanced : Balanced (Clean site.handed events) site.issued (site.base?.toList ++ site.loose)
    site.tables
  base : ∀ base, site.base? = some base → Descends site.handed base
  apart : ∀ lock ∈ site.handed, lock.owner.token ∉ site.loose.flatMap TransactionLock.tokens
  known : ∀ lock ∈ site.handed, lock.owner.token ∈ site.issued

/-- An event that leaves the scope as it is, and the locks elsewhere without other tokens. -/
theorem Kept.of_loose {site : Site} (kept : Kept events site) {loose : List TransactionLock}
    {issued : List String}
    (balanced : Balanced (Clean site.handed (event :: events)) issued
      (site.base?.toList ++ loose) t)
    (tokens : ∀ token ∈ loose.flatMap TransactionLock.tokens,
      token ∈ site.loose.flatMap TransactionLock.tokens ∨ token ∉ site.issued)
    (known : ∀ token ∈ site.issued, token ∈ issued) :
    Kept (event :: events) { site with tables := t, loose := loose, issued := issued } where
  balanced := balanced
  base := kept.base
  apart lock member again := by
    rcases tokens _ again with old | new
    · exact kept.apart lock member old
    · exact new (kept.known lock member)
  known lock member := known _ (kept.known lock member)

/-- An event that gives a new name to a lock elsewhere. -/
theorem Kept.of_named {site : Site} (kept : Kept events site) (unused : site.Unused lock.owner.token)
    (flat : lock.nested = [])
    (fewer : ∀ token ∈ others.flatMap TransactionLock.tokens,
      token ∈ site.loose.flatMap TransactionLock.tokens)
    (balanced : Balanced (Clean site.handed (event :: events)) (lock.owner.token :: site.issued)
      (lock :: (site.base?.toList ++ others)) t) :
    Kept (event :: events)
      { site with
        tables := t
        loose := lock :: others
        issued := lock.owner.token :: site.issued } := by
  refine kept.of_loose (balanced.perm List.perm_middle.symm) ?_ fun _ => List.mem_cons_of_mem _
  intro token member
  rw [List.flatMap_cons] at member
  rcases List.mem_append.mp member with new | old
  · have same : token = lock.owner.token := by simpa [TransactionLock.tokens, flat] using new
    rw [same]
    exact .inr unused.1
  · exact .inl (fewer token old)

theorem Kept.balanced_after {site : Site} (kept : Kept events site) (event : Event) :
    Balanced (Clean site.handed (event :: events)) site.issued (site.base?.toList ++ site.loose)
      site.tables :=
  kept.balanced.mono fun _ => Clean.later

/-- The locks of a site, one that is elsewhere first. -/
theorem Kept.balanced_loose {site : Site} (kept : Kept events site) (event : Event)
    (loose : site.loose.Perm (lock :: others)) :
    Balanced (Clean site.handed (event :: events)) site.issued
      (lock :: (site.base?.toList ++ others)) site.tables :=
  (kept.balanced_after event).perm ((loose.append_left _).trans List.perm_middle)

theorem mem_tokens_of_perm {site : Site} (loose : site.loose.Perm locks)
    (sublist : (left.flatMap TransactionLock.tokens).Sublist (locks.flatMap TransactionLock.tokens))
    {token : String} (member : token ∈ left.flatMap TransactionLock.tokens) :
    token ∈ site.loose.flatMap TransactionLock.tokens :=
  (loose.flatMap_right _).mem_iff.mpr (sublist.subset member)

/-- An operation of the scope, which may take one of the locks elsewhere. -/
theorem Kept.operate {site : Site} {scope after : Scope} {operation : ScopeOperation}
    {answer : operation.Answer} (kept : Kept events site) (held : site.scope? = some scope)
    (loose : site.loose.Perm (operation.lock?.toList ++ others))
    (performed : Performs answers site.tables (operation.routine scope) trace (answer, after) t) :
    Kept (.performed trace :: events)
      { site with
        tables := t
        scope? := some after
        loose := others
        handed := operation.lock?.toList ++ site.handed } := by
  have base? : site.base? = scope.base? := by
    rw [Site.base?, held]
    rfl
  have balanced := kept.balanced.perm (loose.append_left _)
  have known := balanced.known
  have distinct := balanced.distinct
  rw [base?] at balanced
  have descends (base : TransactionLock) (isBase : scope.base? = some base) :
      Descends (operation.lock?.toList ++ site.handed) base :=
    (kept.base base (base?.trans isBase)).mono (List.subset_append_right _ _)
  have own (lock : TransactionLock) (member : lock ∈ scope.base?.toList ++ operation.lock?.toList) :
      ∃ source ∈ operation.lock?.toList ++ site.handed, lock.owner = source.owner ∧
        ∀ backend, lock.backend? = some backend → source.backend? = some backend := by
    rcases List.mem_append.mp member with isBase | isHanded
    · exact (descends lock (Option.mem_toList.mp isBase)).2
    · exact ⟨lock, List.mem_append_left _ isHanded, rfl, fun _ => id⟩
  have rests := performs_operation_rests (fun base isBase => (descends base isBase).1)
    (balanced.mono fun _ => Clean.earlier)
    (fun lock member => spared_of_performed (own lock member)) performed
  have mine (lock : TransactionLock) (new : lock ∈ operation.lock?.toList) :
      lock.owner.token ∈ operation.lock?.toList.flatMap TransactionLock.tokens :=
    List.mem_flatMap.mpr ⟨lock, new, List.mem_cons_self⟩
  simp only [List.flatMap_append] at known distinct
  refine ⟨rests.balanced, fun base isBase => ?_, fun lock member again => ?_, fun lock member => ?_⟩
  · obtain ⟨locked, lock, member, owner, backend⟩ := rests.base base isBase
    obtain ⟨source, handed, sameOwner, sameBackend⟩ := own lock member
    exact ⟨locked, source, handed, owner.trans sameOwner,
      fun other same => sameBackend other (backend other same)⟩
  · rcases List.mem_append.mp member with new | old
    · have apart := (List.nodup_append.mp (List.nodup_append.mp distinct).2.1).2.2
      exact apart _ (mine lock new) _ again rfl
    · refine kept.apart lock old (mem_tokens_of_perm loose ?_ again)
      simp
  · rcases List.mem_append.mp member with new | old
    · exact known _ (List.mem_append_right _ (List.mem_append_left _ (mine lock new)))
    · exact kept.known lock old

/-- A scope that is dropped gives its base lock up. -/
theorem Kept.drop {site : Site} {scope : Scope} (kept : Kept events site)
    (held : site.scope? = some scope)
    (performed : Performs answers site.tables scope.discard trace () t) :
    Kept (.performed trace :: events) { site with tables := t, scope? := none } := by
  have base? : site.base? = scope.base? := by
    rw [Site.base?, held]
    rfl
  have given :
      Balanced (Clean site.handed (.performed trace :: events)) site.issued site.loose t := by
    have balanced := kept.balanced_after (.performed trace)
    rw [base?] at balanced
    unfold Scope.discard at performed
    cases isBase : scope.base? with
    | none =>
        simp only [isBase] at performed balanced
        obtain ⟨rfl, -, rfl⟩ := performs_done_iff.mp performed
        exact balanced
    | some base =>
        simp only [isBase] at performed balanced
        have descends := kept.base base (base?.trans isBase)
        exact balanced_discard balanced (spared_of_performed descends.2) performed
  exact ⟨given, fun base none => (by cases none), kept.apart, kept.known⟩

theorem Step.kept {site after : Site} (kept : Kept events site) (step : Step site event after) :
    Kept (event :: events) after := by
  cases step with
  | build backend owner relaxed objects unused =>
      have standing := standing_ofObjects backend owner relaxed objects
      have built := (kept.balanced_after (.happened none site.tables site.tables)).add standing rfl
        unused.1 unused.2
      exact kept.of_named unused rfl (fun _ => id) built
  | @describe lock others owner loose unlocked unused =>
      have balanced := kept.balanced_loose (.happened none site.tables site.tables) loose
      have flat := ((balanced.standing lock List.mem_cons_self).of_created unlocked).2
      have described := balanced.describe unlocked unused.1 unused.2
      refine kept.of_named unused flat (fun token member => ?_) described
      exact mem_tokens_of_perm loose (List.sublist_append_right ..) member
  | @handle lock others left trace t handling loose performed =>
      have balanced := kept.balanced_loose (.happened (some lock.owner.token) site.tables t) loose
      obtain ⟨handled, tokens⟩ := balanced_handle balanced performed
        (unharmed_of_happened fun other member same =>
          balanced.foreign other member (Option.some.inj same).symm)
      refine kept.of_loose (handled.perm (List.perm_append_comm_assoc ..))
        (fun token member => .inl (mem_tokens_of_perm loose ?_ member)) fun _ => id
      simpa using tokens.append_right (others.flatMap TransactionLock.tokens)
  | @nest outer inner after others answer trace t loose performed =>
      have perm : (site.base?.toList ++ site.loose).Perm
          (outer :: inner :: (site.base?.toList ++ others)) :=
        (loose.append_left _).trans (List.perm_middle.trans (List.perm_middle.cons outer))
      have balanced :=
        (kept.balanced_after (.happened (some inner.owner.token) site.tables t)).perm perm
      have swapped := balanced.perm (.swap inner outer _)
      obtain ⟨nested, -, tokens⟩ := balanced.pushNested performed fun _ =>
        unharmed_of_happened fun other member same =>
          swapped.foreign other member (Option.some.inj same).symm
      refine kept.of_loose (nested.perm List.perm_middle.symm)
        (fun token member => .inl (mem_tokens_of_perm loose ?_ member)) fun _ => id
      simpa using tokens.append_right (others.flatMap TransactionLock.tokens)
  | @operate scope after others trace t operation answer held loose performed =>
      exact kept.operate held loose performed
  | @drop scope trace t held performed => exact kept.drop held performed
  | @interfere t others =>
      have balanced := (kept.balanced_after (.happened none site.tables t)).interfere others
        (unharmed_of_happened (by simp))
      exact kept.of_loose balanced (fun token => .inl) fun _ => id

theorem Run.kept {site : Site} (run : Run events site) : Kept events site := by
  induction run with
  | start tables =>
      refine ⟨⟨by simp [base?, Scope.empty], ?_, ?_, by simp, ?_⟩, ?_, ?_, by simp⟩
      · simp [base?, Scope.empty]
      · simp [base?, Scope.empty]
      · simp [base?, Scope.empty]
      · intro base held
        cases held
      · simp
  | step run step hypothesis => exact step.kept hypothesis

/-- The base lock has acquired all of its keys from its backend. -/
theorem Kept.of_base {site : Site} {base : TransactionLock} (kept : Kept events site)
    (isBase : site.base? = some base) :
    base.acquired = base.keys ∧ ∃ backend, base.backend? = some backend := by
  have standing : base.Standing := kept.balanced.standing base (by simp [isBase])
  exact standing.of_locked (kept.base base isBase).1

/-- A record of a lock that was handed over can only be one of the base lock. -/
theorem Kept.belongs {site : Site} {n : Nat} {key : LockKey} {record : Record}
    (kept : Kept events site) (found : site.tables.read n key = some record)
    (handed : lock ∈ site.handed) (own : record.owner = lock.owner.token) :
    ∃ base backend, site.base? = some base ∧ record.owner = base.owner.token ∧
      base.backend? = some backend ∧ n = backend.id ∧ key ∈ base.keys := by
  obtain ⟨holder, member, same, backend, isBackend, rfl, acquired⟩ :=
    kept.balanced.accounts n key record found (own ▸ kept.known lock handed)
  rcases List.mem_append.mp member with isBase | isLoose
  · have isBase := Option.mem_toList.mp isBase
    rw [(kept.of_base isBase).1] at acquired
    exact ⟨holder, backend, isBase, same.symm, isBackend, rfl, acquired⟩
  · refine absurd (List.mem_flatMap.mpr ⟨holder, isLoose, ?_⟩) (kept.apart lock handed)
    rw [← own, ← same]
    exact List.mem_cons_self

/-- In every run no record leaks. -/
theorem Run.noLeak {site : Site} (run : Run events site) : NoLeak events site where
  belongs n key record found lock handed own := run.kept.belongs found handed own
  vacant none lock handed n key held := by
    obtain ⟨record, found, own⟩ := held
    obtain ⟨base, -, isBase, -⟩ := run.kept.belongs found handed own
    rw [none] at isBase
    cases isBase
  exact undisturbed base isBase := by
    obtain ⟨acquired, backend, isBackend⟩ := run.kept.of_base isBase
    obtain ⟨-, source, handed, owner, -⟩ := run.kept.base base isBase
    refine ⟨backend, isBackend, fun n key => ⟨fun ⟨record, found, own⟩ => ?_, ?_⟩⟩
    · obtain ⟨other, _, same, -, isOwn, rfl, member⟩ :=
        run.kept.belongs found handed (own.trans (congrArg Owner.token owner))
      cases isBase.symm.trans same
      cases isBackend.symm.trans isOwn
      exact ⟨rfl, member⟩
    · rintro ⟨rfl, member⟩
      have clean : Clean site.handed events base.owner.token :=
        ⟨owner ▸ undisturbed source handed, undisturbed⟩
      have intact := run.kept.balanced.intact base (by simp [isBase]) clean
      exact intact _ key ⟨backend, isBackend, rfl, acquired ▸ member⟩

theorem unused_of_vacant {site : Site} (vacant : site.tables.read = fun _ _ => none)
    (fresh : token ∉ site.issued) : site.Unused token :=
  ⟨fresh, fun n key record found => by rw [vacant] at found; cases found⟩

/-- The calls of the scope do no harm where no record is stale at any of them. -/
theorem leaves_of_fresh {handed : List TransactionLock} {trace : List (Moment Tables)}
    (fresh : ∀ lock ∈ handed, ∀ backend ∈ lock.backend?, ∀ moment ∈ trace,
      ∀ record ∈ (moment.state.table backend.id).records,
        record.isStale backend.config.maxLockAge moment.state.time = false) :
    (Event.performed trace).Leaves handed token := by
  rintro lock member n key record - ⟨backend, isBackend, rfl, moment, visited, found, stale⟩
  have stored := List.mem_of_find?_eq_some found
  cases stale.symm.trans (fresh lock member backend isBackend moment visited record stored)

/-- A lock that was locked before is handed over and becomes the base, and another one is refused,
since it has a key that the base lock has not. Nothing has interfered, so the base lock has its
key. -/
theorem refusal_noLeak : ∃ events site, Run events site ∧
    site.handed.map (·.owner.token) = ["n", "b"] ∧
    (site.tables.table 0).records.map (·.owner) = ["b"] ∧ NoLeak events site ∧
    (∀ lock ∈ site.handed, Undisturbed site.handed events lock.owner.token) ∧
    ∃ base, site.base? = some base ∧
      ∀ n key, site.tables.Held n key base.owner.token ↔ n = 0 ∧ key ∈ base.keys := by
  have inner := (Run.start ⟨0, fun _ => .empty⟩).step
    (.build ⟨0, {}⟩ ⟨"n", "inner"⟩ false [(⟨"l"⟩, none)] (unused_of_vacant rfl (by simp)))
  have both := inner.step
    (.build ⟨0, {}⟩ ⟨"b", "base"⟩ false [(⟨"k"⟩, none)] (unused_of_vacant rfl (by simp)))
  have locked := both.step
    (.handle (.lock 1 (some (.after 0))) (.refl _) (performs_handle rfl))
  have based := locked.step
    (.operate (.acquire 1 (.after 0) _) rfl (.refl _) (performs_handle rfl))
  have refused := based.step
    (.operate (.acquire 1 (.after 0) _) rfl (.refl _) (performs_handle rfl))
  have noLeak := refused.noLeak
  refine ⟨_, _, refused, rfl, rfl, noLeak, (and_iff_left_of_imp fun undisturbed => ?_).mpr ?_⟩
  · obtain ⟨backend, isBackend, exactly⟩ := noLeak.exact undisturbed _ rfl
    cases isBackend
    exact ⟨_, rfl, exactly⟩
  · intro lock handed event happened
    -- no time passes, so no record gets stale, and the site is vacant until the base lock is locked
    match event, happened with
    | _, .head _ => exact leaves_of_fresh (by decide +kernel)
    | _, .tail _ (.head _) => exact leaves_of_fresh (by decide +kernel)
    | _, .tail _ (.tail _ (.head _)) => exact .inr fun n key record found _ => by cases found
    | _, .tail _ (.tail _ (.tail _ (.head _))) => exact .inr fun n key record found _ => found
    | _, .tail _ (.tail _ (.tail _ (.tail _ (.head _)))) =>
      exact .inr fun n key record found _ => found

end Site

end TransactionKit
