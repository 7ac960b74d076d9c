import TransactionKit.Proofs.Scope.Operation
import TransactionKit.Proofs.Transaction.Ledger

/-!
What the operations of a scope do to the ledger of locks. The base lock and a lock that is handed
over are accounted for beside locks that are elsewhere. Whatever becomes of the two, after the
operation the ledger is balanced with the base lock that is left (`Rests`): a lock that is neither
the base then nor elsewhere holds nothing.
-/

namespace TransactionKit

open Routine Tables TransactionLock

/-! ## Calls to connections -/

namespace Bundle

theorem only_failures {action : Connection → Routine (Except Error Unit)}
    (only : ∀ connection, Only SparesRecords (action connection)) (connections : List Connection) :
    Only SparesRecords (failures action connections) := by
  induction connections with
  | nil => trivial
  | cons connection rest hypothesis =>
      refine (only connection).bind fun result => hypothesis.bind fun later => ?_
      cases result with
      | ok _ => trivial
      | error e => trivial

theorem only_commit (bundle : Bundle) : Only SparesRecords bundle.commit := by
  have only (connection : Connection) : Only SparesRecords (Routine.commit connection) :=
    ⟨trivial, fun _ => trivial⟩
  exact (only_failures only _).bind fun _ => trivial

theorem only_rollback (bundle : Bundle) : Only SparesRecords bundle.rollback := by
  have only (connection : Connection) : Only SparesRecords (Routine.rollback connection) :=
    ⟨trivial, fun _ => trivial⟩
  exact (only_failures only _).bind fun _ => trivial

theorem only_closeAll (bundle : Bundle) : Only SparesRecords bundle.closeAll := by
  have only (connection : Connection) : Only SparesRecords (Routine.close connection) :=
    ⟨trivial, fun _ => trivial⟩
  exact (only_failures only _).bind fun _ => trivial

theorem only_encapsulate (bundle : Bundle) (store : Store) :
    Only SparesRecords (bundle.encapsulate store) := by
  unfold encapsulate
  split
  · trivial
  · refine ⟨trivial, fun answer => ?_⟩
    cases answer with
    | error e => trivial
    | ok connection? => cases connection? <;> trivial

end Bundle

/-! ## Operations of the scope -/

section Operations

variable {s t : Tables} {trace : List (Moment Tables)} {clean : String → Prop}
  {issued : List String} {rest : List TransactionLock} {scope after : Scope}

/-- A base lock that was the base or was handed over: locked, with the owner of that lock and no
backend but its own. -/
def Descends (locks : List TransactionLock) (base : TransactionLock) : Prop :=
  base.state = .locked ∧ ∃ lock ∈ locks, base.owner = lock.owner ∧
    ∀ backend, base.backend? = some backend → lock.backend? = some backend

theorem Descends.mono {locks more : List TransactionLock} {base : TransactionLock}
    (descends : Descends locks base) (subset : locks ⊆ more) : Descends more base := by
  obtain ⟨locked, lock, member, same⟩ := descends
  exact ⟨locked, lock, subset member, same⟩

theorem descends_of_follows {lock base : TransactionLock} (follows : lock.Follows base)
    (locked : base.state = .locked) : Descends [lock] base := by
  refine ⟨locked, lock, List.mem_singleton_self lock, follows.owner, fun backend own => ?_⟩
  rcases follows.backend? with none | same
  · rw [own] at none
    cases none
  · rwa [same] at own

/-- What an operation leaves: the ledger of the base lock and of the locks elsewhere is balanced,
and the base lock comes from one of some locks. -/
structure Rests (clean : String → Prop) (issued : List String) (locks rest : List TransactionLock)
    (after : Scope) (t : Tables) : Prop where
  balanced : Balanced clean issued (after.base?.toList ++ rest) t
  base : ∀ base, after.base? = some base → Descends locks base

theorem balanced_discard {lock : TransactionLock}
    (balanced : Balanced clean issued (lock :: rest) s) (spared : Spared clean lock trace)
    (performed : Performs answers s lock.discard trace () t) : Balanced clean issued rest t := by
  have standing := balanced.standing lock List.mem_cons_self
  exact balanced.discard performed (balanced.unharmed (standing.performs_discard performed) spared)

/-- Clearing a scope gives the base lock up. -/
theorem performs_clear_balanced (balanced : Balanced clean issued (scope.base?.toList ++ rest) s)
    (spared : ∀ base, scope.base? = some base → Spared clean base trace)
    (performed : Performs answers s scope.clear trace after t) :
    after.base? = none ∧ Balanced clean issued rest t := by
  unfold Scope.clear at performed
  cases held : scope.base? with
  | none =>
      simp only [held] at performed balanced
      obtain ⟨bundle, rfl, closing⟩ := performs_bind_done_iff.mp performed
      exact ⟨rfl, balanced.of_read (read_eq_of_only scope.connections.only_closeAll closing)⟩
  | some base =>
      simp only [held] at performed balanced
      obtain ⟨_, u, first, second, rfl, discarding, performed⟩ := performs_bind_iff.mp performed
      obtain ⟨bundle, rfl, closing⟩ := performs_bind_done_iff.mp performed
      have given := balanced_discard balanced (spared base held).left discarding
      exact ⟨rfl, given.of_read (read_eq_of_only scope.connections.only_closeAll closing)⟩

theorem performs_enterBase_rests {rounds : Nat} {timeout? : Option Timeout}
    {lock : TransactionLock} {answer : Except Error Unit} (vacant : scope.base? = none)
    (balanced : Balanced clean issued (lock :: rest) s) (spared : Spared clean lock trace)
    (performed : Performs answers s (scope.enterBase rounds timeout? lock) trace
      (answer, after) t) : Rests clean issued [lock] rest after t := by
  have standing := balanced.standing lock List.mem_cons_self
  rw [Scope.enterBase_eq] at performed
  obtain ⟨⟨result, locked⟩, u, first, second, rfl, locking, performed⟩ :=
    performs_bind_iff.mp performed
  obtain ⟨follows, state⟩ := locking.returned (standing.returns_lockWithin rounds timeout?)
  have manages := standing.performs_lockWithin locking
  have managed := balanced.manage manages follows (balanced.unharmed manages spared.left)
  cases result with
  | ok _ =>
      obtain ⟨rfl, same, rfl⟩ := performs_done_iff.mp performed
      cases same
      refine ⟨managed, fun base held => ?_⟩
      cases held
      exact descends_of_follows follows (state rfl)
  | error e =>
      obtain ⟨_, same, discarding⟩ := performs_bind_done_iff.mp performed
      cases same
      have given := balanced_discard managed (spared.right.of_follows follows) discarding
      refine ⟨by rwa [vacant], fun base held => ?_⟩
      rw [vacant] at held
      cases held

theorem performs_enter_rests {rounds : Nat} {timeout? : Option Timeout} {lock : TransactionLock}
    {answer : Except Error Unit} (locked : ∀ base, scope.base? = some base → base.state = .locked)
    (balanced : Balanced clean issued (scope.base?.toList ++ lock :: rest) s)
    (spared : ∀ involved ∈ scope.base?.toList ++ [lock], Spared clean involved trace)
    (performed : Performs answers s (scope.enter rounds timeout? lock) trace (answer, after) t) :
    Rests clean issued (scope.base?.toList ++ [lock]) rest after t := by
  unfold Scope.enter at performed
  cases held : scope.base? with
  | none =>
      simp only [held] at performed balanced spared
      exact performs_enterBase_rests held balanced (spared lock (by simp)) performed
  | some base =>
      simp only [held] at performed balanced spared
      have standing := balanced.standing base List.mem_cons_self
      obtain ⟨⟨valid, left⟩, u, check, second, rfl, checking, entering⟩ :=
        performs_bind_iff.mp performed
      obtain ⟨manages, outcome⟩ := standing.performs_isLocked checking
      have baseSpared : Spared clean base check := (spared base (by simp)).left
      have unharmed := balanced.unharmed manages baseSpared
      rcases outcome with ⟨rfl, isLocked, rfl, -⟩ | ⟨rfl, isLocked, rfl⟩ | ⟨-, unlocked, -⟩
      · have managed := balanced.manage manages (.refl standing) unharmed
        obtain ⟨⟨answer, pushed⟩, same, pushing⟩ := performs_bind_done_iff.mp entering
        cases same
        obtain ⟨balanced, ⟨nested, rfl⟩, -⟩ := managed.pushNested pushing fun discarding => by
          have swapped := managed.perm (.swap ..)
          have fresh := swapped.standing lock List.mem_cons_self
          exact swapped.unharmed (fresh.performs_discard discarding) (spared lock (by simp)).right
        refine ⟨balanced, fun base held => ?_⟩
        cases held
        exact ⟨isLocked, left, by simp, rfl, fun _ => id⟩
      · have managed := balanced.manage manages base.follows_finished unharmed
        obtain ⟨cleared, v, third, fourth, rfl, clearing, acquiring⟩ :=
          performs_bind_iff.mp entering
        have finishedSpared : Spared clean base.finished third :=
          (spared base (by simp)).right.left.of_follows base.follows_finished
        obtain ⟨vacant, given⟩ := performs_clear_balanced managed
          (fun other same => by cases same; exact finishedSpared) clearing
        have entered :=
          performs_enterBase_rests vacant given (spared lock (by simp)).right.right acquiring
        exact ⟨entered.balanced, fun base held => (entered.base base held).mono (by simp)⟩
      · exact absurd (locked base held) unlocked

theorem performs_release_rests (locked : ∀ base, scope.base? = some base → base.state = .locked)
    (balanced : Balanced clean issued (scope.base?.toList ++ rest) s)
    (spared : ∀ base, scope.base? = some base → Spared clean base trace)
    (performed : Performs answers s scope.release trace after t) :
    Rests clean issued scope.base?.toList rest after t := by
  unfold Scope.release at performed
  cases held : scope.base? with
  | none =>
      simp only [held] at performed balanced
      obtain ⟨rfl, rfl, rfl⟩ := performs_done_iff.mp performed
      refine ⟨by rwa [held], fun base same => ?_⟩
      rw [held] at same
      cases same
  | some base =>
      simp only [held] at performed balanced
      have standing := balanced.standing base List.mem_cons_self
      rcases List.eq_nil_or_concat base.nested with flat | ⟨others, inner, nested⟩
      · rw [popNested_of_nil flat, done_bind] at performed
        obtain ⟨_, u, first, second, rfl, discarding, leaving⟩ := performs_bind_iff.mp performed
        obtain ⟨bundle, rfl, closing⟩ := performs_bind_done_iff.mp leaving
        have given := balanced_discard balanced (spared base held).left discarding
        refine ⟨given.of_read (read_eq_of_only scope.connections.only_closeAll closing), ?_⟩
        exact fun base same => by cases same
      · rw [List.concat_eq_append] at nested
        rw [standing.popNested_eq nested, done_bind] at performed
        obtain ⟨rfl, rfl, rfl⟩ := performs_done_iff.mp performed
        have fewer : others.Sublist base.nested := by
          rw [nested]
          exact List.sublist_append_left others [inner]
        refine ⟨balanced.dropNested fewer, fun left same => ?_⟩
        cases same
        exact ⟨locked base held, base, List.mem_singleton_self base, rfl, fun _ => id⟩

theorem performs_clear_rests (balanced : Balanced clean issued (scope.base?.toList ++ rest) s)
    (spared : ∀ base, scope.base? = some base → Spared clean base trace)
    (performed : Performs answers s scope.clear trace after t) :
    Rests clean issued scope.base?.toList rest after t := by
  obtain ⟨vacant, given⟩ := performs_clear_balanced balanced spared performed
  refine ⟨by rwa [vacant], ?_⟩
  intro base held
  rw [vacant] at held
  cases held

theorem performs_commitAndRelease_rests {answer : Except Error Unit}
    (locked : ∀ base, scope.base? = some base → base.state = .locked)
    (balanced : Balanced clean issued (scope.base?.toList ++ rest) s)
    (spared : ∀ base, scope.base? = some base → Spared clean base trace)
    (performed : Performs answers s scope.commitAndRelease trace (answer, after) t) :
    Rests clean issued scope.base?.toList rest after t := by
  by_cases inner : 1 < scope.depth
  · rw [Scope.commitAndRelease_of_inner inner] at performed
    obtain ⟨left, same, releasing⟩ := performs_bind_done_iff.mp performed
    cases same
    exact performs_release_rests locked balanced spared releasing
  · rw [Scope.commitAndRelease_of_base inner] at performed
    obtain ⟨result, u, first, second, rfl, committing, leaving⟩ := performs_bind_iff.mp performed
    obtain ⟨left, same, releasing⟩ := performs_bind_done_iff.mp leaving
    cases same
    have unchanged := read_eq_of_only (Bundle.only_commit _) committing
    exact performs_release_rests locked (balanced.of_read unchanged)
      (fun base held => (spared base held).right) releasing

/-- After every operation the ledger of the base lock and of the locks elsewhere is balanced. -/
theorem performs_operation_rests {operation : ScopeOperation} {answer : operation.Answer}
    (locked : ∀ base, scope.base? = some base → base.state = .locked)
    (balanced : Balanced clean issued
      (scope.base?.toList ++ (operation.lock?.toList ++ rest)) s)
    (spared : ∀ lock ∈ scope.base?.toList ++ operation.lock?.toList, Spared clean lock trace)
    (performed : Performs answers s (operation.routine scope) trace (answer, after) t) :
    Rests clean issued (scope.base?.toList ++ operation.lock?.toList) rest after t := by
  have baseSpared (base : TransactionLock) (held : scope.base? = some base) :
      Spared clean base trace :=
    spared base (by simp [held])
  -- what only concerns the connections leaves the base lock as it is
  have connecting (same : t.read = s.read) (base? : after.base? = scope.base?)
      (only : operation.lock? = none) :
      Rests clean issued (scope.base?.toList ++ operation.lock?.toList) rest after t := by
    simp only [only, Option.toList_none, List.nil_append, List.append_nil] at balanced ⊢
    refine ⟨by rw [base?]; exact balanced.of_read same, fun base held => ?_⟩
    rw [base?] at held
    exact ⟨locked base held, base, by simp [held], rfl, fun _ => id⟩
  cases operation with
  | acquire rounds timeout lock => exact performs_enter_rests locked balanced spared performed
  | acquireDefault rounds lock => exact performs_enter_rests locked balanced spared performed
  | release =>
      obtain ⟨left, same, releasing⟩ := performs_bind_done_iff.mp performed
      cases same
      simpa [ScopeOperation.lock?] using
        performs_release_rests locked balanced baseSpared releasing
  | encapsulate store =>
      obtain ⟨⟨result, bundle⟩, same, opening⟩ := performs_bind_done_iff.mp performed
      cases same
      exact connecting (read_eq_of_only (Bundle.only_encapsulate _ _) opening) rfl rfl
  | commit =>
      obtain ⟨result, same, committing⟩ := performs_bind_done_iff.mp performed
      cases same
      exact connecting (read_eq_of_only (Bundle.only_commit _) committing) rfl rfl
  | rollback =>
      obtain ⟨result, same, rollingBack⟩ := performs_bind_done_iff.mp performed
      cases same
      exact connecting (read_eq_of_only (Bundle.only_rollback _) rollingBack) rfl rfl
  | commitAndRelease =>
      simpa [ScopeOperation.lock?] using
        performs_commitAndRelease_rests locked balanced baseSpared performed
  | rollbackAndRelease =>
      obtain ⟨result, u, first, second, rfl, rollingBack, leaving⟩ :=
        performs_bind_iff.mp performed
      obtain ⟨left, same, clearing⟩ := performs_bind_done_iff.mp leaving
      cases same
      have unchanged := read_eq_of_only (Bundle.only_rollback _) rollingBack
      simpa [ScopeOperation.lock?] using performs_clear_rests (balanced.of_read unchanged)
        (fun base held => (baseSpared base held).right) clearing
  | clear =>
      obtain ⟨left, same, clearing⟩ := performs_bind_done_iff.mp performed
      cases same
      simpa [ScopeOperation.lock?] using performs_clear_rests balanced baseSpared clearing

end Operations

end TransactionKit
