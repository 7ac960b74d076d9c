import TransactionKit.Proofs.Scope.Settlement

/-!
The life of the connections of a scope, over any number of operations that start from an empty
scope. Whatever locks are handed to the scope and whichever calls fail, the enlisted connections are
at any time those that were handed out and not closed since, in the order in which they were handed
out, and no two of them belong to one owner (`History.enlists`). Everything else follows from that:
a connection that was closed gets no further call, and an owner gets another connection only after
the one before was closed (`History.lifeCycle`).

Nothing is assumed about the locks, which need not even be ones that can be built.
-/

namespace TransactionKit

/-- An operation on a scope, with what was called in it. -/
structure Entry where
  before : Scope
  operation : ScopeOperation
  trace : List (Moment Dealings)
  answer : operation.Answer
  after : Scope

/-- The operations on a scope that was empty, the latest first. -/
inductive History : List Entry → Scope → Dealings → Prop where
  | start : History [] .empty .none
  | perform {entries : List Entry} {scope after : Scope} {s t : Dealings}
      {operation : ScopeOperation} {trace : List (Moment Dealings)} {answer : operation.Answer}
      (earlier : History entries scope s)
      (performed : Routine.Performs Dealings.answers s (operation.routine scope) trace
        (answer, after) t) :
      History (⟨scope, operation, trace, answer, after⟩ :: entries) after t

/-- All that was called in some operations. -/
def moments : List Entry → List (Moment Dealings)
  | [] => []
  | entry :: earlier => moments earlier ++ entry.trace

namespace History

variable {entries : List Entry} {scope : Scope} {s : Dealings}

theorem enlists (history : History entries scope s) : Enlists scope.connections s := by
  induction history with
  | start => exact ⟨rfl, List.nodup_nil, by simp [Dealings.none]⟩
  | perform earlier performed hypothesis => exact (performs_operation hypothesis performed).enlists

theorem passes (history : History entries scope s) :
    Routine.Passes Dealings.answers .none (moments entries) s := by
  induction history with
  | start => exact .refl _
  | perform earlier performed hypothesis =>
      exact Routine.passes_append_iff.mpr ⟨_, hypothesis, performed.passes⟩

theorem orderly (history : History entries scope s) :
    ∀ moment ∈ moments entries, Orderly moment := by
  induction history with
  | start => simp [moments]
  | perform earlier performed hypothesis =>
      intro moment member
      rcases List.mem_append.mp member with before | now
      · exact hypothesis moment before
      · exact (performs_operation earlier.enlists performed).orderly moment now

/-- Every entry is an operation on a scope with its own history. -/
theorem performed (history : History entries scope s) {entry : Entry} (member : entry ∈ entries) :
    ∃ u v, Enlists entry.before.connections u ∧
      Routine.Performs Dealings.answers u (entry.operation.routine entry.before) entry.trace
        (entry.answer, entry.after) v := by
  induction history with
  | start => cases member
  | perform earlier performed hypothesis =>
      rcases List.mem_cons.mp member with rfl | member
      · exact ⟨_, _, earlier.enlists, performed⟩
      · exact hypothesis member

/-- A moment in a history: how it was reached, the answer, and what followed. -/
theorem split (history : History entries scope s) {earlier later : List (Moment Dealings)}
    {moment : Moment Dealings} (split : moments entries = earlier ++ moment :: later) :
    ∃ u, Routine.Passes Dealings.answers .none earlier moment.state ∧
      Dealings.answers moment.state moment.exchange.call moment.exchange.answer u ∧
      Routine.Passes Dealings.answers u later s := by
  have passes := history.passes
  rw [split] at passes
  obtain ⟨u, before, after⟩ := Routine.passes_append_iff.mp passes
  cases after with
  | step answered rest => exact ⟨_, before, answered, rest⟩

end History

/-- An operation that hands a lock over finds the base lock lost: the first thing it does is the
check of the base lock, and that fails. -/
def Entry.DiscardsInvalid (entry : Entry) : Prop :=
  ∃ lock base left check rest s u, entry.operation.lock? = some lock ∧
    entry.before.base? = some base ∧ entry.trace = check ++ rest ∧
    Routine.Performs Dealings.answers s base.isLocked check (false, left) u

/-- What the life of the connections of a scope is like. -/
structure LifeCycle (entries : List Entry) : Prop where
  /-- No two enlisted connections belong to one owner. -/
  distinct : ∀ entry ∈ entries,
    (entry.after.connections.connections.map fun c => c.store.ownerId).Nodup
  /-- An owner gets another connection only after the one before was closed. -/
  reopened : ∀ earlier opening between reopening later first second,
    moments entries = earlier ++ opening :: (between ++ reopening :: later) →
    opening.exchange.opened? = some first → reopening.exchange.opened? = some second →
    first.store.ownerId = second.store.ownerId → first ∈ closed between
  /-- A commit goes to every enlisted connection once, in order, whichever fail. -/
  committed : ∀ before trace answer after, ⟨before, .commit, trace, answer, after⟩ ∈ entries →
    sent trace = before.connections.connections.map (fun c => (.commit, c)) ∧
      (answer = .ok () ↔ failed trace = []) ∧ after = before
  rolledBack : ∀ before trace answer after, ⟨before, .rollback, trace, answer, after⟩ ∈ entries →
    sent trace = before.connections.connections.map (fun c => (.rollback, c)) ∧
      (answer = .ok () ↔ failed trace = []) ∧ after = before
  /-- So does the commit with which the base level is left. -/
  committedOnLeaving : ∀ before trace answer after,
    ⟨before, .commitAndRelease, trace, answer, after⟩ ∈ entries → before.depth ≤ 1 →
    SendsToAll .commit before.connections.connections trace answer
  rolledBackOnLeaving : ∀ before trace answer after,
    ⟨before, .rollbackAndRelease, trace, answer, after⟩ ∈ entries →
    SendsToAll .rollback before.connections.connections trace answer
  /-- Leaving an inner level sends nothing. -/
  deferred : ∀ before trace answer after,
    ⟨before, .commitAndRelease, trace, answer, after⟩ ∈ entries → 2 ≤ before.depth →
    sent trace = []
  /-- Nothing is sent to a connection that was closed, least of all that it be closed. -/
  quietOnceClosed : ∀ earlier closing later connection,
    moments entries = earlier ++ closing :: later → closing.exchange.call = .close connection →
    ∀ act, (act, connection) ∉ sent later
  /-- When the scope is left or its base lock is lost, every enlisted connection is closed once. -/
  closedOnLeaving : ∀ entry ∈ entries,
    (entry.before.isActive = true ∧ entry.after.isActive = false) ∨ entry.DiscardsInvalid →
    closed entry.trace = entry.before.connections.connections ∧
      entry.before.connections.connections.Nodup

namespace History

variable {entries : List Entry} {scope : Scope} {s : Dealings}

/-- An operation that finds the base lock lost closes and forgets every connection. -/
theorem closes_of_discardsInvalid (history : History entries scope s) {entry : Entry}
    (member : entry ∈ entries) (invalid : entry.DiscardsInvalid) :
    ∃ u t, Enlists entry.before.connections u ∧ Closes entry.after u t entry.trace := by
  obtain ⟨lock, base, left, check, rest, v, w, handed, held, split, checked⟩ := invalid
  obtain ⟨u, t, enlists, performed⟩ := history.performed member
  have entering {rounds : Nat} {timeout? : Option Timeout} {answer : Except Error Unit}
      (performed : Routine.Performs Dealings.answers u
        (entry.before.enter rounds timeout? lock) entry.trace (answer, entry.after) t) :
      Closes entry.after u t entry.trace := by
    rcases performs_enter enlists performed with
      ⟨vacant, -⟩ | ⟨base', valid, left', check', rest', x, held', split', checked', -, closes⟩
    · rw [held] at vacant
      cases vacant
    · rw [held] at held'
      cases held'
      -- the check that failed is the one that the operation made
      obtain ⟨-, same⟩ := checked.eq_of_append checked' (split.symm.trans split')
      cases same
      exact closes rfl
  refine ⟨u, t, enlists, ?_⟩
  obtain ⟨before, operation, trace, answer, after⟩ := entry
  cases operation with
  | acquire rounds timeout own =>
      cases handed
      exact entering performed
  | acquireDefault rounds own =>
      cases handed
      exact entering performed
  | _ => cases handed

theorem closed_of_discardsInvalid (history : History entries scope s) {entry : Entry}
    (member : entry ∈ entries) (invalid : entry.DiscardsInvalid) :
    closed entry.trace = entry.before.connections.connections := by
  obtain ⟨u, t, enlists, closes⟩ := history.closes_of_discardsInvalid member invalid
  rw [closed_of_sentToAll closes.sent, if_pos rfl, enlists.live]

theorem lifeCycle (history : History entries scope s) : LifeCycle entries where
  distinct := by
    intro entry member
    obtain ⟨u, v, enlists, performed⟩ := history.performed member
    have after := (performs_operation enlists performed).enlists
    rw [after.live]
    exact after.distinct
  reopened := by
    intro earlier opening between reopening later first second split opened reopened sameOwner
    obtain ⟨u, before, answered, afterwards⟩ := history.split split
    obtain ⟨v, between, next⟩ := Routine.passes_append_iff.mp afterwards
    have orderly : Orderly reopening := history.orderly reopening (by simp [split])
    have live : first ∈ u.live := live_of_opened answered opened
    have gone : first ∉ reopening.state.live := fun live =>
      orderly.single second reopened first live sameOwner
    cases next with
    | step answered rest => exact mem_closed_of_passes between live gone
  committed := by
    intro before trace answer after member
    obtain ⟨u, v, enlists, performed⟩ := history.performed member
    obtain ⟨result, same, committing⟩ := Routine.performs_bind_done_iff.mp performed
    cases same
    obtain ⟨all, result⟩ := performs_commit enlists committing
    exact ⟨by rw [enlists.live, all.sent_eq], result, rfl⟩
  rolledBack := by
    intro before trace answer after member
    obtain ⟨u, v, enlists, performed⟩ := history.performed member
    obtain ⟨result, same, rollingBack⟩ := Routine.performs_bind_done_iff.mp performed
    cases same
    obtain ⟨all, result⟩ := performs_rollback enlists rollingBack
    exact ⟨by rw [enlists.live, all.sent_eq], result, rfl⟩
  committedOnLeaving := by
    intro before trace answer after member base
    obtain ⟨u, v, enlists, performed⟩ := history.performed member
    rw [enlists.live]
    exact (performs_commitAndRelease_base (Nat.not_lt.mpr base) enlists performed).1
  rolledBackOnLeaving := by
    intro before trace answer after member
    obtain ⟨u, v, enlists, performed⟩ := history.performed member
    rw [enlists.live]
    exact (performs_rollbackAndRelease enlists performed).1
  deferred := by
    intro before trace answer after member inner
    obtain ⟨u, v, enlists, performed⟩ := history.performed member
    exact (performs_commitAndRelease_inner inner enlists performed).silent.sent_eq
  quietOnceClosed := by
    intro earlier closing later connection split closes act sending
    obtain ⟨u, before, answered, afterwards⟩ := history.split split
    have wasLive : connection ∈ closing.state.live :=
      (history.orderly closing (by simp [split])).live .close connection (by rw [closes]; rfl)
    obtain ⟨state, call, answer⟩ := closing
    obtain rfl : call = .close connection := closes
    cases answered
    have issued := issued_of_live before (by simp [Dealings.none]) connection wasLive
    obtain ⟨moment, member, sends⟩ := List.mem_filterMap.mp sending
    obtain ⟨between, rest, rfl⟩ := List.append_of_mem member
    obtain ⟨v, meanwhile, next⟩ := Routine.passes_append_iff.mp afterwards
    have again : connection ∈ moment.state.live :=
      (history.orderly moment (by simp [split])).live act connection sends
    cases next with
    | step answered rest =>
        exact not_live_of_passes meanwhile issued (by simp [Dealings.close]) again
  closedOnLeaving := by
    intro entry member leaves
    obtain ⟨u, v, enlists, performed⟩ := history.performed member
    refine ⟨?_, by rw [enlists.live]; exact enlists.nodup⟩
    rcases leaves with ⟨active, left⟩ | invalid
    · rcases (performs_operation enlists performed).closes with stays | closes
      · rw [stays active] at left
        cases left
      · rw [closes, enlists.live]
    · exact history.closed_of_discardsInvalid member invalid

end History

/-- A world in which every key belongs to one owner and the commits of store number 0 fail. -/
def Dealings.handle : Handler Dealings
  | .request .., s => (.ok (), s)
  | .create .., s => (.ok true, s)
  | .read _ key, s => (.ok (some ⟨key, "o", "owner", .ofNanos 0⟩), s)
  | .remove .., s => (.ok true, s)
  | .now, s => (0, s)
  | .sleep _, s => ((), s)
  | .connect store, s =>
    if ⟨store, s.issued.length⟩ ∈ s.issued then (.ok .none, s)
    else
      (.ok (some ⟨store, s.issued.length⟩),
        ⟨⟨store, s.issued.length⟩ :: s.issued, s.live ++ [⟨store, s.issued.length⟩]⟩)
  | .commit connection, s =>
    (if connection.store.id = 0 then .error (.connection "commit failed") else .ok (), s)
  | .rollback _, s => (.ok (), s)
  | .close connection, s => (.ok (), s.close connection)

theorem Dealings.answers_handle (s : Dealings) (c : Call) :
    Dealings.answers s c (Dealings.handle c s).1 (Dealings.handle c s).2 := by
  cases c with
  | connect store =>
      by_cases old : ⟨store, s.issued.length⟩ ∈ s.issued
      · simp [Dealings.handle, old, Dealings.answers]
      · simp [Dealings.handle, old, Dealings.answers]
  | _ => rfl

/-- Two stores take part in a transaction with an inner level; when the base level is left the
commit of the first store fails. Afterwards the first store is enlisted again, without a lock. -/
def failingCommit : List ScopeOperation :=
  let lock := TransactionLock.ofKeys ⟨0, {}⟩ ⟨"o", "owner"⟩ false [⟨"k"⟩]
  [.acquire 1 (.after 0) lock, .encapsulate ⟨0, 10⟩, .encapsulate ⟨1, 11⟩,
    .acquire 1 (.after 0) lock, .commitAndRelease, .commitAndRelease, .encapsulate ⟨0, 10⟩, .clear]

/-- The history that a handler leads operations through, if none of them starves. -/
def History.play? (handle : Handler Dealings) :
    List ScopeOperation → List Entry × Scope × Dealings → Option (List Entry × Scope × Dealings)
  | [], state => some state
  | operation :: rest, (entries, scope, s) =>
    match (operation.routine scope).run handle s with
    | (some (answer, after), t) =>
      play? handle rest
        (⟨scope, operation, (operation.routine scope).runTrace handle s, answer, after⟩ :: entries,
          after, t)
    | (.none, _) => .none

theorem History.of_play? {handle : Handler Dealings}
    (allows : ∀ s c, Dealings.answers s c (handle c s).1 (handle c s).2)
    {operations : List ScopeOperation} {entries left : List Entry} {scope after : Scope}
    {s t : Dealings} (history : History entries scope s)
    (play : play? handle operations (entries, scope, s) = some (left, after, t)) :
    History left after t := by
  induction operations generalizing entries scope s with
  | nil =>
      cases play
      exact history
  | cons operation rest hypothesis =>
      unfold play? at play
      split at play
      · rename_i answer next u ran
        exact hypothesis (.perform history (Routine.performs_of_run allows ran)) play
      · cases play

theorem failingCommit_lifeCycle : ∃ entries scope s, History entries scope s ∧
    sent (moments entries) =
      [(.commit, ⟨⟨0, 10⟩, 0⟩), (.commit, ⟨⟨1, 11⟩, 1⟩), (.close, ⟨⟨0, 10⟩, 0⟩),
        (.close, ⟨⟨1, 11⟩, 1⟩), (.close, ⟨⟨0, 10⟩, 2⟩)] ∧
    LifeCycle entries := by
  obtain ⟨entries, scope, s, play, sendings⟩ : ∃ entries scope s,
      History.play? Dealings.handle failingCommit ([], .empty, .none) = some (entries, scope, s) ∧
        sent (moments entries) =
          [(.commit, ⟨⟨0, 10⟩, 0⟩), (.commit, ⟨⟨1, 11⟩, 1⟩), (.close, ⟨⟨0, 10⟩, 0⟩),
            (.close, ⟨⟨1, 11⟩, 1⟩), (.close, ⟨⟨0, 10⟩, 2⟩)] :=
    ⟨_, _, _, rfl, rfl⟩
  have history := History.start.of_play? Dealings.answers_handle play
  exact ⟨entries, scope, s, history, sendings, history.lifeCycle⟩

end TransactionKit
