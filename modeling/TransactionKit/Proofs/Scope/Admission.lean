import TransactionKit.Proofs.Scope.Leakage

/-!
What the admission to a scope is worth. A lock that is nested in a strict base lock takes the word
of that one: its keys are compared with the keys of the base lock, and the check of the base lock
has just found a fresh record under each of those, in the table of the base lock. The table that the
nested lock was built for is never looked at, so nothing is known of it when it is another one.
-/

namespace TransactionKit

open Routine Tables TransactionLock

namespace Site

/-- Acquiring a lock, within a timeout or within its default one, where a strict base lock is held
and found valid: whenever it succeeds, every key of the lock has a record of the base lock in the
table that this one was acquired from, and the check has found the record fresh. -/
theorem Run.admission {events : List Event} {site : Site} {scope after : Scope}
    {base left lock : TransactionLock} {rounds : Nat} {timeout? : Option Timeout}
    {trace check rest : List (Moment Tables)} {t u : Tables} (run : Run events site)
    (held : site.scope? = some scope) (isBase : scope.base? = some base)
    (strict : base.relaxed = false)
    (performed : Performs answers site.tables (scope.enter rounds timeout? lock) trace
      (.ok (), after) t)
    (split : trace = check ++ rest)
    (checked : Performs answers site.tables base.isLocked check (true, left) u) :
    ∃ backend, base.backend? = some backend ∧ ∀ key ∈ lock.keys, ∃ record,
      t.read backend.id key = some record ∧ record.owner = base.owner.token ∧
        FreshIn backend trace key record ∧
        ((∀ moment ∈ trace, moment.state.time = t.time) →
          record.isStale backend.config.maxLockAge t.time = false) := by
  have siteBase : site.base? = some base := by rw [Site.base?, held, Option.bind_some, isBase]
  have standing : base.Standing := run.kept.balanced.standing base (by simp [siteBase])
  obtain ⟨acquired, backend, isBackend⟩ := run.kept.of_base siteBase
  refine ⟨backend, isBackend, fun key member => ?_⟩
  unfold Scope.enter at performed
  simp only [isBase] at performed
  obtain ⟨⟨valid, base'⟩, v, first, second, rfl, checking, entering⟩ :=
    performs_bind_iff.mp performed
  -- the check that has found the base lock valid is the one that the operation made
  obtain ⟨rfl, same⟩ := checking.eq_of_append checked split
  cases same
  obtain ⟨-, outcome⟩ := standing.performs_isLocked checking
  rcases outcome with ⟨-, -, rfl, found⟩ | ⟨invalid, -⟩ | ⟨invalid, -⟩
  · obtain ⟨⟨answer, nested⟩, same, pushing⟩ := performs_bind_done_iff.mp entering
    cases same
    unfold pushNested at pushing
    cases refused : left.refusal? lock with
    | some e =>
        simp only [refused] at pushing
        obtain ⟨_, same, -⟩ := performs_bind_done_iff.mp pushing
        cases same
    | none =>
        simp only [refused] at pushing
        obtain ⟨rfl, -, rfl⟩ := performs_done_iff.mp pushing
        have covered := (refusal?_eq_none_iff.mp refused).2.2 strict key member
        obtain ⟨record, present, own, fresh⟩ := found backend isBackend key (acquired ▸ covered)
        refine ⟨record, present, own, fresh.append_left, fun still => ?_⟩
        obtain ⟨moment, looked, -, young⟩ := fresh
        rwa [still moment (List.mem_append_left _ looked)] at young
  · cases invalid
  · cases invalid

/-- A strict lock that holds a key of table 0. -/
def heldBase : TransactionLock :=
  ⟨SortedMap.ofList [(⟨"k"⟩, none)], some ⟨0, {}⟩, ⟨"b", "base"⟩, .locked, false, [⟨"k"⟩], []⟩

/-- A scope whose base lock holds a key of table 0, and elsewhere a lock on the key of the same name
that was built for some backend. -/
def holding (backend : Backend) : Site where
  tables := ⟨0, Function.update (fun _ => .empty) 0 ⟨[⟨⟨"k"⟩, "b", "base", .ofNanos 0⟩]⟩⟩
  scope? := some ⟨some heldBase, .empty⟩
  loose := [ofKeys backend ⟨"n", "inner"⟩ false [⟨"k"⟩]]
  handed := [ofKeys ⟨0, {}⟩ ⟨"b", "base"⟩ false [⟨"k"⟩]]
  issued := ["b", "n"]

theorem run_holding (backend : Backend) : ∃ events, Run events (holding backend) := by
  have inner := (Run.start ⟨0, fun _ => .empty⟩).step
    (.build backend ⟨"n", "inner"⟩ false [(⟨"k"⟩, none)] (unused_of_vacant rfl (by simp)))
  have both := inner.step
    (.build ⟨0, {}⟩ ⟨"b", "base"⟩ false [(⟨"k"⟩, none)] (unused_of_vacant rfl (by simp)))
  have based := both.step
    (.operate (.acquire 1 (.after 0) _) rfl (.refl _) (performs_handle rfl))
  exact ⟨_, based⟩

theorem held_on_admission : ∃ events after trace t, Run events (holding ⟨0, {}⟩) ∧
    Performs answers (holding ⟨0, {}⟩).tables (Scope.acquire 1 (.after 0)
      (ofKeys ⟨0, {}⟩ ⟨"n", "inner"⟩ false [⟨"k"⟩]) ⟨some heldBase, .empty⟩) trace (.ok (), after) t ∧
    ∃ record, t.read 0 ⟨"k"⟩ = some record ∧ record.owner = "b" := by
  obtain ⟨events, run⟩ := run_holding ⟨0, {}⟩
  have performed : Performs answers (holding ⟨0, {}⟩).tables (Scope.acquire 1 (.after 0)
      (ofKeys ⟨0, {}⟩ ⟨"n", "inner"⟩ false [⟨"k"⟩]) ⟨some heldBase, .empty⟩) _ (.ok (), _) _ :=
    performs_handle rfl
  have checked : Performs answers (holding ⟨0, {}⟩).tables heldBase.isLocked _ (true, _) _ :=
    performs_handle rfl
  refine ⟨events, _, _, _, run, performed, ?_⟩
  obtain ⟨backend, isBackend, found⟩ :=
    run.admission rfl rfl rfl performed (List.append_nil _).symm checked
  cases isBackend
  obtain ⟨record, present, own, -⟩ := found ⟨"k"⟩ List.mem_cons_self
  exact ⟨record, present, own⟩

/-- The lock was built for table 1, and it is admitted without a record there. -/
theorem unheld_on_admission : ∃ events after left trace t u, Run events (holding ⟨1, {}⟩) ∧
    heldBase.relaxed = false ∧
    Performs answers (holding ⟨1, {}⟩).tables (Scope.acquire 1 (.after 0)
      (ofKeys ⟨1, {}⟩ ⟨"n", "inner"⟩ false [⟨"k"⟩]) ⟨some heldBase, .empty⟩) trace (.ok (), after) t ∧
    Performs answers (holding ⟨1, {}⟩).tables heldBase.isLocked trace (true, left) u ∧
    t.read 1 ⟨"k"⟩ = none := by
  obtain ⟨events, run⟩ := run_holding ⟨1, {}⟩
  exact ⟨events, _, _, _, _, _, run, rfl, performs_handle rfl, performs_handle rfl, rfl⟩

end Site

end TransactionKit
