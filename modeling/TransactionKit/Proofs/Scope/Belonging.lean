import TransactionKit.Proofs.Scope.LifeCycle

/-!
Whether the connections of a scope belong to its base lock. Where a scope has no lock it should have
no connection, and a base lock that is new should start without any (`Belonging`). No way out of a
base lock leaves a connection behind, so the only one that can be there without a lock is one that
was enlisted without it (`Entry.Strays`): the connections belong to the base lock exactly if that
never happens (`History.belonging_iff`).
-/

namespace TransactionKit

open Routine

/-- Without a lock a scope has no connection. -/
def Scope.Tidy (scope : Scope) : Prop :=
  scope.isActive = false → scope.connections = .empty

namespace Entry

/-- A connection is enlisted while no lock is held. -/
def Strays (entry : Entry) : Prop :=
  entry.before.isActive = false ∧
    ∃ c ∈ entry.after.connections.connections, c ∉ entry.before.connections.connections

instance (entry : Entry) : Decidable entry.Strays := by
  unfold Strays
  infer_instance

/-- The scope has a base lock afterwards that it had not before. -/
def Rebases (entry : Entry) : Prop :=
  entry.after.isActive = true ∧ (entry.before.isActive = false ∨ entry.DiscardsInvalid)

end Entry

/-- The connections of a scope belong to its base lock. -/
structure Belonging (entries : List Entry) : Prop where
  /-- Without a lock there is no connection. -/
  idle : ∀ entry ∈ entries, entry.after.Tidy
  /-- No connection is carried over into a new base lock. -/
  fresh : ∀ entry ∈ entries, entry.Rebases → entry.after.connections = .empty

/-! ## Ways out of a base lock -/

/-- The lock of a scope is kept, or its connections are forgotten. -/
def KeepsOrForgets (before after : Scope) : Prop :=
  (before.isActive = true → after.isActive = true) ∨ after.connections = .empty

variable {scope : Scope}

/-- A lock that becomes the base, or does not, leaves the connections alone. -/
theorem returns_enterBase_connections (rounds : Nat) (timeout? : Option Timeout)
    (lock : TransactionLock) :
    Returns (fun result => result.2.connections = scope.connections ∧
        (scope.isActive = true → result.2.isActive = true))
      (scope.enterBase rounds timeout? lock) := by
  rw [Scope.enterBase_eq]
  refine (returns_free _).bind fun (answer, locked) _ => ?_
  cases answer with
  | ok _ => exact ⟨rfl, fun _ => rfl⟩
  | error e => exact (returns_free _).bind fun _ _ => ⟨rfl, id⟩

theorem returns_enter (rounds : Nat) (timeout? : Option Timeout) (lock : TransactionLock) :
    Returns (fun result => KeepsOrForgets scope result.2) (scope.enter rounds timeout? lock) := by
  unfold Scope.enter
  cases scope.base? with
  | none => exact (returns_enterBase_connections rounds timeout? lock).mono fun _ kept => .inl kept.2
  | some base =>
    refine (returns_free _).bind fun (valid, left) _ => ?_
    cases valid with
    | true => exact (returns_free _).bind fun _ _ => .inl fun _ => rfl
    | false =>
      refine (Scope.returns_clear _).bind fun cleared isEmpty => ?_
      rw [isEmpty]
      exact (returns_enterBase_connections rounds timeout? lock).mono fun _ kept => .inr kept.1

theorem returns_release (scope : Scope) : Returns (KeepsOrForgets scope) scope.release := by
  unfold Scope.release
  cases scope.base? with
  | none => exact .inl id
  | some base =>
    refine (returns_free _).bind fun (popped?, left) _ => ?_
    cases popped? with
    | some inner => exact .inl fun _ => rfl
    | none =>
      have closed : Returns (fun bundle => bundle = .empty) scope.connections.closeAll :=
        (returns_free _).bind fun _ _ => rfl
      exact (returns_free _).bind fun _ _ => closed.bind fun _ isEmpty => .inr isEmpty

/-- Whatever is done, a scope keeps its lock or forgets its connections. -/
theorem returns_keepsOrForgets (operation : ScopeOperation) :
    Returns (fun result => KeepsOrForgets scope result.2) (operation.routine scope) := by
  have clear : Returns (KeepsOrForgets scope) scope.clear :=
    (Scope.returns_clear scope).mono fun _ isEmpty => .inr (by rw [isEmpty]; rfl)
  cases operation with
  | acquire rounds timeout lock => exact returns_enter rounds (some timeout) lock
  | acquireDefault rounds lock => exact returns_enter rounds none lock
  | release => exact (returns_release scope).bind fun _ => id
  | encapsulate store => exact (returns_free _).bind fun _ _ => .inl id
  | commit => exact (returns_free _).bind fun _ _ => .inl id
  | rollback => exact (returns_free _).bind fun _ _ => .inl id
  | commitAndRelease =>
    change Returns _ scope.commitAndRelease
    by_cases inner : 1 < scope.depth
    · rw [Scope.commitAndRelease_of_inner inner]
      exact (returns_release scope).bind fun _ => id
    · rw [Scope.commitAndRelease_of_base inner]
      exact (returns_free _).bind fun _ _ => (returns_release scope).bind fun _ => id
  | rollbackAndRelease => exact (returns_free _).bind fun _ _ => clear.bind fun _ => id
  | clear => exact clear.bind fun _ => id

namespace Entry

variable {entry : Entry}

theorem keepsOrForgets_of_performs {u v : Dealings}
    (performed : Performs Dealings.answers u (entry.operation.routine entry.before) entry.trace
      (entry.answer, entry.after) v) : KeepsOrForgets entry.before entry.after := by
  have outcome := performed.returned (returns_keepsOrForgets entry.operation)
  exact outcome

/-- Where nothing strays, a scope that has neither a lock nor a connection gets no connection. -/
theorem empty_of_steady (steady : ¬ entry.Strays) (vacant : entry.before.isActive = false)
    (isEmpty : entry.before.connections = .empty) : entry.after.connections = .empty := by
  have none : entry.after.connections.connections = [] := by
    apply List.eq_nil_iff_forall_not_mem.mpr
    intro c member
    exact steady ⟨vacant, c, member, by simp [isEmpty, Bundle.empty]⟩
  calc entry.after.connections = ⟨entry.after.connections.connections⟩ := rfl
    _ = .empty := by rw [none]; rfl

/-- Where nothing strays, a tidy scope stays tidy. -/
theorem tidy_after (outcome : KeepsOrForgets entry.before entry.after) (steady : ¬ entry.Strays)
    (tidy : entry.before.Tidy) : entry.after.Tidy := by
  intro idle
  cases active : entry.before.isActive with
  | false => exact empty_of_steady steady active (tidy active)
  | true =>
    rcases outcome with kept | forgotten
    · cases idle.symm.trans (kept active)
    · exact forgotten

end Entry

namespace History

variable {entries : List Entry} {s : Dealings}

/-- Where nothing strays, the scope is tidy all the time. -/
theorem tidy (history : History entries scope s) (steady : ∀ entry ∈ entries, ¬ entry.Strays) :
    (∀ entry ∈ entries, entry.before.Tidy ∧ entry.after.Tidy) ∧ scope.Tidy := by
  induction history with
  | start => exact ⟨by simp, fun _ => rfl⟩
  | perform earlier performed ih =>
    obtain ⟨latest, others⟩ := List.forall_mem_cons.mp steady
    obtain ⟨before, now⟩ := ih others
    have after := Entry.tidy_after (Entry.keepsOrForgets_of_performs performed) latest now
    exact ⟨List.forall_mem_cons.mpr ⟨⟨now, after⟩, before⟩, after⟩

/-- The connections of a scope belong to its base lock exactly if none is ever enlisted while no
lock is held, whatever locks are handed to the scope and whichever calls fail. -/
theorem belonging_iff (history : History entries scope s) :
    Belonging entries ↔ ∀ entry ∈ entries, ¬ entry.Strays := by
  constructor
  · rintro ⟨idle, fresh⟩ entry member ⟨vacant, c, enlisted, -⟩
    have isEmpty : entry.after.connections = .empty := by
      cases active : entry.after.isActive with
      | false => exact idle entry member active
      | true => exact fresh entry member ⟨active, .inl vacant⟩
    rw [isEmpty] at enlisted
    cases enlisted
  · intro steady
    obtain ⟨tidy, -⟩ := history.tidy steady
    refine ⟨fun entry member => (tidy entry member).2, fun entry member rebases => ?_⟩
    rcases rebases.2 with vacant | invalid
    · exact Entry.empty_of_steady (steady entry member) vacant ((tidy entry member).1 vacant)
    · obtain ⟨u, v, -, closes⟩ := history.closes_of_discardsInvalid member invalid
      exact closes.connections

end History

/-- A connection is enlisted in a transaction whose commit fails, and another transaction follows. -/
theorem failingCommit_belonging : ∃ entries scope s, History entries scope s ∧
    scope.isActive = true ∧ (moments entries).filterMap (·.exchange.opened?) = [⟨⟨0, 10⟩, 0⟩] ∧
    Belonging entries := by
  let lock := TransactionLock.ofKeys ⟨0, {}⟩ ⟨"o", "owner"⟩ false [⟨"k"⟩]
  obtain ⟨entries, scope, s, play, active, opened, steady⟩ : ∃ entries scope s,
      History.play? Dealings.handle
        [.acquire 1 (.after 0) lock, .encapsulate ⟨0, 10⟩, .commitAndRelease,
          .acquire 1 (.after 0) lock] ([], .empty, .none) = some (entries, scope, s) ∧
        scope.isActive = true ∧
        (moments entries).filterMap (·.exchange.opened?) = [⟨⟨0, 10⟩, 0⟩] ∧
        ∀ entry ∈ entries, ¬ entry.Strays :=
    ⟨_, _, _, rfl, rfl, rfl, by decide⟩
  have history := History.start.of_play? Dealings.answers_handle play
  exact ⟨entries, scope, s, history, active, opened, history.belonging_iff.mpr steady⟩

/-- A connection that is enlisted before a lock is held is carried over into the base lock. -/
theorem enlisted_without_lock_carried_over : ∃ before after trace answer rest s,
    let entry : Entry := ⟨before, .acquire 1 (.after 0)
      (TransactionLock.ofKeys ⟨0, {}⟩ ⟨"o", "owner"⟩ false [⟨"k"⟩]), trace, answer, after⟩
    History (entry :: rest) after s ∧ before.isActive = false ∧ after.isActive = true ∧
      before.connections.connections = [⟨⟨0, 10⟩, 0⟩] ∧
      after.connections = before.connections ∧ ¬ Belonging (entry :: rest) := by
  obtain ⟨before, after, trace, answer, rest, s, play, vacant, active, enlisted, same⟩ :
      ∃ before after trace answer rest s,
        History.play? Dealings.handle
          [.encapsulate ⟨0, 10⟩, .acquire 1 (.after 0)
            (TransactionLock.ofKeys ⟨0, {}⟩ ⟨"o", "owner"⟩ false [⟨"k"⟩])]
          ([], .empty, .none) =
            some (⟨before, .acquire 1 (.after 0)
              (TransactionLock.ofKeys ⟨0, {}⟩ ⟨"o", "owner"⟩ false [⟨"k"⟩]), trace, answer,
              after⟩ :: rest, after, s) ∧
        before.isActive = false ∧ after.isActive = true ∧
        before.connections.connections = [⟨⟨0, 10⟩, 0⟩] ∧ after.connections = before.connections :=
    ⟨_, _, _, _, _, _, rfl, rfl, rfl, rfl, rfl⟩
  have history := History.start.of_play? Dealings.answers_handle play
  refine ⟨before, after, trace, answer, rest, s, history, vacant, active, enlisted, same, ?_⟩
  intro belonging
  have isEmpty := belonging.fresh _ List.mem_cons_self ⟨active, .inl vacant⟩
  rw [← same, isEmpty] at enlisted
  cases enlisted

end TransactionKit
