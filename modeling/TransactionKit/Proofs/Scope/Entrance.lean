import TransactionKit.Proofs.Scope.Leakage
import TransactionKit.Proofs.Transaction.Withdrawal

/-!
What becomes of a scope when a lock is handed to it. Where no base lock is held, or the one that was
held is found to be lost and the scope is cleared, the lock becomes the base or the scope stays
without one (`Founding`). A base lock that is found valid takes the lock in or stays as it was
(`Nesting`). A lock that is rejected is given up, and leaves no record behind (`Run.entrance`). It
leaves those of the base lock alone, unless it had acquired keys under settings that ignore owners:
what is under these keys goes with it (`Overrides`).
-/

namespace TransactionKit

open Routine Tables TransactionLock

variable {s t : Tables} {trace : List (Moment Tables)} {scope after : Scope}
  {base lock : TransactionLock} {rounds : Nat} {timeout? : Option Timeout}
  {answer : Except Error Unit}

namespace TransactionLock

/-- The form in which a lock becomes the base of a scope. -/
def asBase (lock : TransactionLock) : TransactionLock :=
  { lock with state := .locked, acquired := lock.keys }

/-- A key that a lock has acquired where the settings ignore owners. -/
def Overrides (lock : TransactionLock) (n : Nat) (key : LockKey) : Prop :=
  ∃ backend, lock.backend? = some backend ∧ backend.config.ignoreLockOwner = true ∧
    n = backend.id ∧ key ∈ lock.acquired

/-- Of the records of others, a lock only takes those that it may override. -/
theorem takes_iff_overrides {n : Nat} {key : LockKey} {record : Record}
    (foreign : record.owner ≠ lock.owner.token) :
    lock.Takes n key record ↔ lock.Overrides n key := by
  simp only [Takes, Releasable, Overrides, foreign, false_or]
  constructor
  · rintro ⟨backend, own, same, member, ignores⟩
    exact ⟨backend, own, ignores, same, member⟩
  · rintro ⟨backend, own, ignores, same, member⟩
    exact ⟨backend, own, same, member, ignores⟩

/-- A lock that is acquired becomes the base of a scope as it is, but for its state. -/
theorem Standing.returns_lock_asBase (standing : lock.Standing) (rounds : Nat) (timeout : Timeout) :
    Returns (fun result => result.1 = .ok () → result.2 = lock.asBase)
      (lock.lock rounds timeout) := by
  cases standing with
  | created objects backend owner relaxed =>
    refine (returns_free _).bind fun deadline _ => ?_
    refine (returns_acquireKeys _).bind fun (complete, acquired) all => ?_
    cases complete with
    | true =>
      obtain rfl : acquired = objects.keys := all rfl
      exact fun _ => rfl
    | false => exact (returns_free _).bind fun _ _ => by simp [Returns]
  | locked => exact fun _ => rfl
  | released => simp [TransactionLock.lock, Returns]

theorem Standing.returns_lockWithin_asBase (standing : lock.Standing) (rounds : Nat)
    (timeout? : Option Timeout) :
    Returns (fun result => result.1 = .ok () → result.2 = lock.asBase)
      (lock.lockWithin rounds timeout?) := by
  cases timeout? with
  | some timeout => exact standing.returns_lock_asBase rounds timeout
  | none =>
    simp only [lockWithin, lockDefault]
    split
    · exact standing.returns_lock_asBase rounds _
    · simp [Returns]

end TransactionLock

/-! ## The two ways in -/

/-- A lock becomes the base of a scope, or the scope stays as it is. -/
structure Founding (scope : Scope) (lock : TransactionLock) (answer : Except Error Unit)
    (after : Scope) : Prop where
  ok : answer = .ok () →
    after = { scope with base? := some lock.asBase } ∧ after.depth = 1 + lock.depth
  error : ∀ e, answer = .error e → after = scope

/-- A lock is nested in the base lock of a scope, or the scope stays as it is. The records of the
base lock stay too, but for those that a rejected lock overrides. -/
structure Nesting (scope : Scope) (base lock : TransactionLock) (answer : Except Error Unit)
    (after : Scope) (s t : Tables) : Prop where
  ok : answer = .ok () →
    after = { scope with base? := some { base with nested := base.nested ++ [lock.asNested] } } ∧
      after.depth = scope.depth + 1
  error : ∀ e, answer = .error e → after = scope
  records : ∀ n key record, record.owner = base.owner.token →
    (t.read n key = some record ↔
      s.read n key = some record ∧ ¬ ((∃ e, answer = .error e) ∧ lock.Overrides n key))

theorem returns_enterBase (standing : lock.Standing) :
    Returns (fun result => Founding scope lock result.1 result.2)
      (scope.enterBase rounds timeout? lock) := by
  rw [Scope.enterBase_eq]
  refine (standing.returns_lockWithin_asBase rounds timeout?).bind fun (answer, locked) same => ?_
  cases answer with
  | ok _ =>
    obtain rfl : locked = lock.asBase := same rfl
    exact ⟨fun _ => ⟨rfl, rfl⟩, by simp⟩
  | error e => exact (returns_free _).bind fun _ _ => ⟨by simp, fun _ _ => rfl⟩

theorem performs_pushNested {pushed : TransactionLock} (fresh : lock.Standing)
    (performed : Performs answers s (base.pushNested lock) trace (answer, pushed) t) :
    answer = .ok () ∧ pushed = { base with nested := base.nested ++ [lock.asNested] } ∧ t = s ∨
      (∃ e, answer = .error e) ∧ pushed = base ∧ Withdrawn lock.Takes s t := by
  unfold pushNested at performed
  cases refused : base.refusal? lock with
  | some e =>
    simp only [refused] at performed
    obtain ⟨_, same, discarding⟩ := performs_bind_done_iff.mp performed
    cases same
    exact .inr ⟨⟨e, rfl⟩, rfl, fresh.withdrawn_discard discarding⟩
  | none =>
    simp only [refused] at performed
    obtain ⟨-, same, rfl⟩ := performs_done_iff.mp performed
    cases same
    exact .inl ⟨rfl, rfl, rfl⟩

/-! ## Handing a lock to a scope -/

section Ledger

variable {clean : String → Prop} {issued : List String} {rest : List TransactionLock}

/-- A check that finds the base lock valid changes nothing about its records. -/
theorem read_iff_of_valid {left : TransactionLock} {record : Record} {n : Nat} {key : LockKey}
    (balanced : Balanced clean issued (base :: rest) s) (locked : base.state = .locked)
    (performed : Performs answers s base.isLocked trace (true, left) t)
    (mine : record.owner = base.owner.token) :
    t.read n key = some record ↔ s.read n key = some record := by
  have standing := balanced.standing base List.mem_cons_self
  rcases standing.performs_isLocked_found locked performed with
    ⟨-, rfl, -, unchanged⟩ | ⟨invalid, -⟩
  · have after := (standing.performs_isLocked performed).1.accounts balanced.accountsFor
    constructor
    · intro found
      exact (unchanged n key record (after n key record found mine) mine).mp found
    · intro found
      exact (unchanged n key record (balanced.accountsFor n key record found mine) mine).mpr found
  · cases invalid

/-- A valid base lock takes the lock in or refuses it. -/
theorem nesting_of_pushNested {u : Tables} {check : List (Moment Tables)}
    {left pushed : TransactionLock} (isBase : scope.base? = some base)
    (locked : base.state = .locked) (balanced : Balanced clean issued (base :: lock :: rest) s)
    (checking : Performs answers s base.isLocked check (true, left) u)
    (pushing : Performs answers u (base.pushNested lock) trace (answer, pushed) t) :
    Nesting scope base lock answer { scope with base? := some pushed } s t := by
  have same : { scope with base? := some base } = scope := by rw [← isBase]
  have depth : scope.depth = 1 + base.nested.length := by
    simp [Scope.depth, TransactionLock.depth, isBase]
  have unchanged (n key record) (mine : record.owner = base.owner.token) :
      u.read n key = some record ↔ s.read n key = some record :=
    read_iff_of_valid balanced locked checking mine
  have foreign : lock.owner.token ≠ base.owner.token :=
    balanced.foreign lock List.mem_cons_self
  rcases performs_pushNested (balanced.standing lock (by simp)) pushing with
    ⟨rfl, rfl, rfl⟩ | ⟨⟨e, rfl⟩, rfl, withdrawn⟩
  · refine ⟨fun _ => ⟨rfl, ?_⟩, by simp, fun n key record mine => ?_⟩
    · rw [depth]
      simp [Scope.depth, TransactionLock.depth, Nat.add_assoc]
    · simp [unchanged n key record mine]
  · refine ⟨by simp, fun _ _ => same, fun n key record mine => ?_⟩
    rw [withdrawn n key record, unchanged n key record mine,
      takes_iff_overrides (mine ▸ foreign.symm)]
    simp

/-- What becomes of a scope when a lock is handed to it. With a base lock the call begins with a
check of that. -/
structure Handover (scope : Scope) (lock : TransactionLock) (trace : List (Moment Tables))
    (answer : Except Error Unit) (after : Scope) (s t : Tables) : Prop where
  vacant : scope.base? = none → Founding scope lock answer after
  held : ∀ base, scope.base? = some base → ∃ valid left check later u, trace = check ++ later ∧
    Performs answers s base.isLocked check (valid, left) u ∧
    (valid = true → base.FoundValid check s ∧ Nesting scope base lock answer after s t) ∧
    (valid = false → base.FoundLost check s ∧ Founding .empty lock answer after)

theorem performs_enter_handover (locked : ∀ base, scope.base? = some base → base.state = .locked)
    (balanced : Balanced clean issued (scope.base?.toList ++ lock :: rest) s)
    (performed : Performs answers s (scope.enter rounds timeout? lock) trace (answer, after) t) :
    Handover scope lock trace answer after s t := by
  have standing : lock.Standing := balanced.standing lock (by simp)
  unfold Scope.enter at performed
  cases isBase : scope.base? with
  | none =>
    simp only [isBase] at performed
    have founds := performed.returned (returns_enterBase standing)
    refine ⟨fun _ => founds, fun base held => ?_⟩
    cases isBase.symm.trans held
  | some base =>
    simp only [isBase] at performed balanced
    have baseStanding := balanced.standing base List.mem_cons_self
    refine ⟨fun vacant => ?_, fun other same => ?_⟩
    · cases isBase.symm.trans vacant
    cases isBase.symm.trans same
    obtain ⟨⟨valid, left⟩, u, check, later, rfl, checking, entering⟩ :=
      performs_bind_iff.mp performed
    refine ⟨valid, left, check, later, u, rfl, checking, ?_⟩
    rcases baseStanding.performs_isLocked_found (locked base isBase) checking with
      ⟨rfl, rfl, found, -⟩ | ⟨rfl, rfl, found⟩
    · obtain ⟨⟨result, pushed⟩, same, pushing⟩ := performs_bind_done_iff.mp entering
      cases same
      refine ⟨fun _ => ⟨found, ?_⟩, by simp⟩
      exact nesting_of_pushNested isBase (locked left isBase) balanced checking pushing
    · obtain ⟨cleared, v, first, second, rfl, clearing, entering⟩ := performs_bind_iff.mp entering
      obtain rfl := clearing.returned (Scope.returns_clear _)
      have founds := entering.returned (returns_enterBase standing)
      exact ⟨by simp, fun _ => ⟨found, founds⟩⟩

end Ledger

/-- After a rejection a scope has the base lock that it had, or none. -/
theorem Handover.base?_of_error {e : Error} (handover : Handover scope lock trace answer after s t)
    (rejected : answer = .error e) : after.base? = scope.base? ∨ after.base? = none := by
  cases isBase : scope.base? with
  | none => exact .inl (by rw [(handover.vacant isBase).error e rejected, isBase])
  | some base =>
    obtain ⟨valid, left, check, later, u, -, -, nests, founds⟩ := handover.held base isBase
    cases valid with
    | true => exact .inl (by rw [(nests rfl).2.error e rejected, isBase])
    | false => exact .inr (by rw [(founds rfl).2.error e rejected]; rfl)

namespace Site

variable {events : List Event} {site : Site} {others : List TransactionLock}

/-- Only the base lock and the locks elsewhere have records. -/
theorem Kept.not_held {token : String} {n : Nat} {key : LockKey} (kept : Kept events site)
    (issued : token ∈ site.issued)
    (apart : ∀ holder ∈ site.base?.toList ++ site.loose, holder.owner.token ≠ token) :
    ¬ site.tables.Held n key token := by
  rintro ⟨record, found, rfl⟩
  obtain ⟨holder, member, same, -⟩ := kept.balanced.accounts n key record found issued
  exact apart holder member same

/-- A lock that is handed over is not elsewhere any more. -/
theorem Run.enter (run : Run events site) (held : site.scope? = some scope)
    (loose : site.loose.Perm (lock :: others))
    (performed : Performs answers site.tables (scope.enter rounds timeout? lock) trace
      (answer, after) t) :
    Run (.performed trace :: events)
      { site with
        tables := t
        scope? := some after
        loose := others
        handed := lock :: site.handed } := by
  cases timeout? with
  | some timeout => exact run.step (.operate (.acquire rounds timeout lock) held loose performed)
  | none => exact run.step (.operate (.acquireDefault rounds lock) held loose performed)

/-- Handing a lock to a scope, within a timeout or within its default one. If it succeeds, the lock
is nested in a valid base lock, or is the base lock of a scope that had none or a lost one. If it
fails, a scope without a base lock or with a valid one is as it was, and a scope that had a lost one
is empty. The records of a valid base lock stay as they were, but for those under keys that a
rejected lock overrides. A rejected lock leaves no record behind. -/
theorem Run.entrance (run : Run events site) (held : site.scope? = some scope)
    (loose : site.loose.Perm (lock :: others))
    (performed : Performs answers site.tables (scope.enter rounds timeout? lock) trace
      (answer, after) t) :
    Handover scope lock trace answer after site.tables t ∧
      ∀ e, answer = .error e → ∀ token ∈ lock.tokens, ∀ n key, ¬ t.Held n key token := by
  have base? : site.base? = scope.base? := by rw [Site.base?, held, Option.bind_some]
  have balanced := run.kept.balanced.perm (loose.append_left _)
  rw [base?] at balanced
  have handover : Handover scope lock trace answer after site.tables t :=
    performs_enter_handover (fun base isBase => (run.kept.base base (base?.trans isBase)).1)
      balanced performed
  refine ⟨handover, fun e rejected token own n key => ?_⟩
  have first := balanced.perm List.perm_middle
  apply (run.enter held loose performed).kept.not_held
  · exact first.known token (List.mem_append_left _ own)
  · intro holder member
    apply first.ne_of_mem_tokens own
    rcases List.mem_append.mp member with isBase | elsewhere
    · have isBase : after.base? = some holder := Option.mem_toList.mp isBase
      rcases handover.base?_of_error rejected with kept | none
      · exact List.mem_append_left _ (Option.mem_toList.mpr (kept ▸ isBase))
      · cases none.symm.trans isBase
    · exact List.mem_append_right _ elsewhere

/-- A locked lock on a key of table 0. -/
def keyLock (ignores : Bool) (token : String) : TransactionLock :=
  ⟨SortedMap.ofList [(⟨"k"⟩, none)], some ⟨0, { ignoreLockOwner := ignores }⟩, ⟨token, token⟩,
    .locked, false, [⟨"k"⟩], []⟩

/-- A lock has lost its key, and the base lock of a scope has acquired it since. -/
def regained (ignores : Bool) : Site where
  tables := ⟨0, Function.update (fun _ => .empty) 0 ⟨[⟨⟨"k"⟩, "b", "b", .ofNanos 0⟩]⟩⟩
  scope? := some ⟨some (keyLock ignores "b"), .empty⟩
  loose := [keyLock ignores "n"]
  handed := [ofKeys ⟨0, { ignoreLockOwner := ignores }⟩ ⟨"b", "b"⟩ false [⟨"k"⟩]]
  issued := ["b", "n"]

theorem run_regained (ignores : Bool) : ∃ events, Run events (regained ignores) := by
  have built := (Run.start ⟨0, fun _ => .empty⟩).step
    (.build ⟨0, { ignoreLockOwner := ignores }⟩ ⟨"n", "n"⟩ false [(⟨"k"⟩, none)]
      (unused_of_vacant rfl (by simp)))
  have locked := built.step (.handle (.lock 1 (some (.after 0))) (.refl _) (performs_handle rfl))
  have lost := locked.step (.interfere fun n key record found => by
    have none : Tables.read ⟨0, fun _ => .empty⟩ n key = some record := found
    cases none)
  have both := lost.step
    (.build ⟨0, { ignoreLockOwner := ignores }⟩ ⟨"b", "b"⟩ false [(⟨"k"⟩, none)]
      (unused_of_vacant rfl (by simp)))
  have based := both.step
    (.operate (.acquire 1 (.after 0) _) rfl (.refl _) (performs_handle rfl))
  exact ⟨_, based⟩

/-- Where owners are respected, the rejected lock takes nothing from the base lock. -/
theorem respected_entrance : ∃ events trace e t, Run events (regained false) ∧
    Performs answers (regained false).tables (Scope.acquire 1 (.after 0) (keyLock false "n")
      ⟨some (keyLock false "b"), .empty⟩) trace
      (.error e, ⟨some (keyLock false "b"), .empty⟩) t ∧
    t.read 0 ⟨"k"⟩ = some ⟨⟨"k"⟩, "b", "b", .ofNanos 0⟩ ∧ ¬ t.Held 0 ⟨"k"⟩ "n" := by
  obtain ⟨events, run⟩ := run_regained false
  have performed : Performs answers (regained false).tables (Scope.acquire 1 (.after 0)
      (keyLock false "n") ⟨some (keyLock false "b"), .empty⟩) _ (.error _, _) _ :=
    performs_handle rfl
  have checked : Performs answers (regained false).tables (keyLock false "b").isLocked _
      (true, _) _ := performs_handle rfl
  obtain ⟨⟨-, held⟩, rejected⟩ := run.entrance rfl (.refl _) performed
  obtain ⟨valid, left, check, later, u, split, checking, nests, -⟩ := held (keyLock false "b") rfl
  obtain ⟨-, same⟩ := checking.eq_of_append checked (split.symm.trans rfl)
  cases same
  obtain ⟨-, -, -, records⟩ := nests rfl
  refine ⟨events, _, _, _, run, performed, ?_, rejected _ rfl "n" (by decide) 0 ⟨"k"⟩⟩
  refine (records 0 ⟨"k"⟩ ⟨⟨"k"⟩, "b", "b", .ofNanos 0⟩ rfl).mpr ⟨rfl, ?_⟩
  rintro ⟨-, backend, own, ignores, -⟩
  cases own
  cases ignores

/-- Where they are ignored, the record of a valid base lock goes with the rejected lock. -/
theorem overridden_on_rejection : ∃ events trace check rest e left t u, Run events (regained true) ∧
    Performs answers (regained true).tables (Scope.acquire 1 (.after 0) (keyLock true "n")
      ⟨some (keyLock true "b"), .empty⟩) trace (.error e, ⟨some (keyLock true "b"), .empty⟩) t ∧
    trace = check ++ rest ∧
    Performs answers (regained true).tables (keyLock true "b").isLocked check (true, left) u ∧
    (regained true).tables.read 0 ⟨"k"⟩ = some ⟨⟨"k"⟩, "b", "b", .ofNanos 0⟩ ∧
    t.read 0 ⟨"k"⟩ = none := by
  obtain ⟨events, run⟩ := run_regained true
  exact ⟨events, _, _, _, _, _, _, _, run, performs_handle rfl, rfl, performs_handle rfl, rfl, rfl⟩

end Site

end TransactionKit
