import TransactionKit.Proofs.Transaction.Conduct
import TransactionKit.Transaction.Scope

/-!
The operations of a scope as data, so that what a scope goes through is a list of them.
-/

namespace TransactionKit

/-- What can be done with a scope. -/
inductive ScopeOperation where
  | acquire (rounds : Nat) (timeout : Timeout) (lock : TransactionLock)
  | acquireDefault (rounds : Nat) (lock : TransactionLock)
  | release
  | encapsulate (store : Store)
  | commit
  | rollback
  | commitAndRelease
  | rollbackAndRelease
  | clear

/-- A lock becomes the base if it is acquired, and is given up otherwise. -/
theorem Scope.enterBase_eq (rounds : Nat) (timeout? : Option Timeout) (lock : TransactionLock)
    (scope : Scope) :
    scope.enterBase rounds timeout? lock =
      (do
        let (answer, lock) ← lock.lockWithin rounds timeout?
        match answer with
        | .ok () => return (.ok (), { scope with base? := some lock })
        | .error e =>
          lock.discard
          return (.error e, scope)) := by
  cases timeout? <;> rfl

/-- On an inner level nothing is committed. -/
theorem Scope.commitAndRelease_of_inner {scope : Scope} (inner : 1 < scope.depth) :
    scope.commitAndRelease = (do return (.ok (), ← scope.release)) := by
  simp [Scope.commitAndRelease, inner]

theorem Scope.commitAndRelease_of_base {scope : Scope} (base : ¬ 1 < scope.depth) :
    scope.commitAndRelease = (do
      let answer ← scope.commit
      return (answer, ← scope.release)) := by
  simp [Scope.commitAndRelease, base]

/-- A scope that is cleared holds nothing. -/
theorem Scope.returns_clear (scope : Scope) :
    Routine.Returns (fun after => after = .empty) scope.clear := by
  have closed : Routine.Returns (fun bundle => bundle = .empty) scope.connections.closeAll :=
    (Routine.returns_free _).bind fun _ _ => rfl
  have rest : Routine.Returns (fun after : Scope => after = .empty) (do
      return ⟨none, ← scope.connections.closeAll⟩) :=
    closed.bind fun bundle isEmpty => by rw [isEmpty]; rfl
  unfold Scope.clear
  cases scope.base? with
  | none => exact rest
  | some base => exact (Routine.returns_free _).bind fun _ _ => rest

namespace ScopeOperation

/-- What an operation answers. -/
@[reducible] def Answer : ScopeOperation → Type
  | acquire .. | acquireDefault .. => Except Error Unit
  | encapsulate _ => Except Error Bool
  | commit | rollback | commitAndRelease | rollbackAndRelease => Except Error Unit
  | release | clear => Unit

/-- How an operation is carried out: its answer, and the scope after it. -/
def routine (scope : Scope) : (operation : ScopeOperation) → Routine (operation.Answer × Scope)
  | acquire rounds timeout lock => scope.acquire rounds timeout lock
  | acquireDefault rounds lock => scope.acquireDefault rounds lock
  | release => do return ((), ← scope.release)
  | encapsulate store => scope.encapsulate store
  | commit => do return (← scope.commit, scope)
  | rollback => do return (← scope.rollback, scope)
  | commitAndRelease => scope.commitAndRelease
  | rollbackAndRelease => scope.rollbackAndRelease
  | clear => do return ((), ← scope.clear)

/-- The lock that an operation hands to the scope. -/
def lock? : ScopeOperation → Option TransactionLock
  | acquire _ _ lock | acquireDefault _ lock => some lock
  | release | encapsulate _ | commit | rollback | commitAndRelease | rollbackAndRelease | clear =>
    none

end ScopeOperation

end TransactionKit
