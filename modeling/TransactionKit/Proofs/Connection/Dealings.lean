import Mathlib.Data.List.Nodup
import TransactionKit.Connection.Bundle
import TransactionKit.Proofs.Routine.Execution
import TransactionKit.Proofs.Transaction.Conduct

/-!
Dealings with connections. A store may hand out connections or refuse, and whatever is sent to a
connection may fail; nothing is assumed but that a connection that is handed out is a new one of
the store that was asked. The dealings say which connections were handed out and which of them are
live, that is, were not closed since. A call is orderly if it is made to a live connection, or if it
gets a connection for an owner that has none. A connection that was closed is never live again
(`not_live_of_passes`), so where all calls are orderly it gets no further call.

A bundle keeps the live connections in the order in which they were handed out (`Enlists`). What it
sends goes to all of them in turn, whichever sendings fail.
-/

namespace TransactionKit

/-- What can be sent to a connection. -/
inductive Sending where
  | commit
  | rollback
  | close
deriving DecidableEq, Repr

namespace Sending

/-- Send something to a connection. -/
def routine : Sending → Connection → Routine (Except Error Unit)
  | commit, connection => Routine.commit connection
  | rollback, connection => Routine.rollback connection
  | close, connection => Routine.close connection

end Sending

/-- What a call sends, and to which connection. -/
def Call.sending? : Call → Option (Sending × Connection)
  | .commit connection => some (.commit, connection)
  | .rollback connection => some (.rollback, connection)
  | .close connection => some (.close, connection)
  | .request .. | .create .. | .read .. | .remove .. | .now | .sleep _ | .connect _ => none

/-- What was sent without success, and to which connection. -/
def Exchange.failure? : Exchange → Option (Sending × Connection)
  | ⟨.commit connection, .error _⟩ => some (.commit, connection)
  | ⟨.rollback connection, .error _⟩ => some (.rollback, connection)
  | ⟨.close connection, .error _⟩ => some (.close, connection)
  | _ => none

/-- The connection that was handed out. -/
def Exchange.opened? : Exchange → Option Connection
  | ⟨.connect _, .ok connection?⟩ => connection?
  | _ => none

/-- The connections that were handed out so far, and those of them that were not closed since, in
the order in which they were handed out. -/
structure Dealings where
  issued : List Connection
  live : List Connection

namespace Dealings

/-- Nothing was handed out yet. -/
def none : Dealings :=
  ⟨[], []⟩

/-- The dealings after a connection was closed. -/
def close (s : Dealings) (connection : Connection) : Dealings :=
  { s with live := s.live.filter fun other => decide (other ≠ connection) }

/-- Every call may get every answer, but a connection that is handed out is a new one of the store
that was asked. -/
def answers : Environment Dealings
  | s, .connect store, answer, t =>
    match answer with
    | .ok (some connection) =>
      connection.store = store ∧ connection ∉ s.issued ∧
        t = ⟨connection :: s.issued, s.live ++ [connection]⟩
    | .ok .none | .error _ => t = s
  | s, .close connection, _, t => t = s.close connection
  | s, .commit _, _, t | s, .rollback _, _, t => t = s
  | s, .request .., _, t | s, .create .., _, t | s, .read .., _, t | s, .remove .., _, t => t = s
  | s, .now, _, t | s, .sleep _, _, t => t = s

end Dealings

/-- What was sent to connections in a trace, in order. -/
def sent (trace : List (Moment Dealings)) : List (Sending × Connection) :=
  trace.filterMap fun moment => moment.exchange.call.sending?

/-- What was sent to connections in a trace without success, in order. -/
def failed (trace : List (Moment Dealings)) : List (Sending × Connection) :=
  trace.filterMap fun moment => moment.exchange.failure?

/-- The connections that were closed in a trace, in order. -/
def closed (trace : List (Moment Dealings)) : List Connection :=
  (sent trace).filterMap fun (act, connection) => if act = .close then some connection else none

@[simp] theorem sent_nil : sent [] = [] := rfl

@[simp] theorem failed_nil : failed [] = [] := rfl

@[simp] theorem sent_append (first second : List (Moment Dealings)) :
    sent (first ++ second) = sent first ++ sent second :=
  List.filterMap_append

@[simp] theorem failed_append (first second : List (Moment Dealings)) :
    failed (first ++ second) = failed first ++ failed second :=
  List.filterMap_append

@[simp] theorem closed_append (first second : List (Moment Dealings)) :
    closed (first ++ second) = closed first ++ closed second := by
  simp [closed]

/-- A call to a connection is made only while it is live, and a connection is handed out only
while its owner has none that is live. -/
structure Orderly (moment : Moment Dealings) : Prop where
  live : ∀ act connection, moment.exchange.call.sending? = some (act, connection) →
    connection ∈ moment.state.live
  single : ∀ connection, moment.exchange.opened? = some connection →
    ∀ other ∈ moment.state.live, other.store.ownerId ≠ connection.store.ownerId

theorem orderly_of_none {moment : Moment Dealings}
    (nothing : moment.exchange.call.sending? = none) (unopened : moment.exchange.opened? = none) :
    Orderly moment where
  live _ _ sending := by simp [nothing] at sending
  single _ opened := by simp [unopened] at opened

/-- A bundle has enlisted what is live, at most one connection for each owner. -/
structure Enlists (bundle : Bundle) (s : Dealings) : Prop where
  live : bundle.connections = s.live
  distinct : (s.live.map fun connection => connection.store.ownerId).Nodup
  issued : ∀ connection ∈ s.live, connection ∈ s.issued

theorem Enlists.nodup {bundle : Bundle} {s : Dealings} (enlists : Enlists bundle s) :
    s.live.Nodup :=
  List.Nodup.of_map _ enlists.distinct

section Parts

variable {α : Type} {s t : Dealings} {trace : List (Moment Dealings)}

/-- What locks do concerns no connection. -/
theorem dealings_of_only {token : String} {r : Routine α} {a : α}
    (only : Routine.Only (Call.LocksFor token) r)
    (performed : Routine.Performs Dealings.answers s r trace a t) :
    t = s ∧ sent trace = [] ∧ failed trace = [] ∧ ∀ moment ∈ trace, Orderly moment := by
  induction performed with
  | done s a => simp
  | @call s u t c next answer trace a answered rest hypothesis =>
      obtain ⟨rfl, nothing, noFailure, orderly⟩ := hypothesis (only.2 answer)
      have sort := only.1
      cases c with
      | connect | commit | rollback | close => exact absurd sort id
      | request | create | read | remove | now | sleep =>
          cases answered
          refine ⟨rfl, nothing, noFailure, fun moment member => ?_⟩
          rcases List.mem_cons.mp member with rfl | member
          · exact orderly_of_none rfl rfl
          · exact orderly moment member

/-- The dealings after something was sent. -/
def Sending.after (act : Sending) (s : Dealings) (connection : Connection) : Dealings :=
  if act = .close then s.close connection else s

theorem performs_sending {act : Sending} {connection : Connection} {answer : Except Error Unit}
    (performed : Routine.Performs Dealings.answers s (act.routine connection) trace answer t) :
    t = act.after s connection ∧ sent trace = [(act, connection)] ∧
      (answer = .ok () ↔ failed trace = []) ∧
      (connection ∈ s.live → ∀ moment ∈ trace, Orderly moment) := by
  cases act <;>
  · obtain ⟨answer, u, rest, rfl, answered, ended⟩ := Routine.performs_call_iff.mp performed
    obtain ⟨rfl, rfl, rfl⟩ := Routine.performs_done_iff.mp ended
    cases answered
    refine ⟨rfl, rfl, ?_, fun live moment member => ?_⟩
    · cases answer <;> simp [failed, Exchange.failure?]
    · rw [List.mem_singleton.mp member]
      refine ⟨fun _ _ sending => ?_, fun _ opened => by cases opened⟩
      cases sending
      exact live

/-- What a bundle sends goes to every connection in turn, whether the sending before it failed or
not. -/
theorem performs_failures {act : Sending} {connections : List Connection} {errors : List Error}
    (performed : Routine.Performs Dealings.answers s (Bundle.failures act.routine connections)
      trace errors t) :
    t = connections.foldl act.after s ∧ sent trace = connections.map (fun c => (act, c)) ∧
      (errors = [] ↔ failed trace = []) ∧
      (connections.Nodup → (∀ c ∈ connections, c ∈ s.live) → ∀ moment ∈ trace, Orderly moment) := by
  induction connections generalizing s t trace errors with
  | nil =>
      obtain ⟨rfl, rfl, rfl⟩ := Routine.performs_done_iff.mp performed
      simp
  | cons connection rest hypothesis =>
      obtain ⟨answer, u, first, later, rfl, sending, performed⟩ :=
        Routine.performs_bind_iff.mp performed
      obtain ⟨others, v, second, third, rfl, performed, ended⟩ :=
        Routine.performs_bind_iff.mp performed
      obtain ⟨rfl, one, failure, orderly⟩ := performs_sending sending
      obtain ⟨rfl, more, failures, orderlyLater⟩ := hypothesis performed
      have ending : third = [] ∧ (errors = [] ↔ answer = .ok () ∧ others = []) ∧
          t = rest.foldl act.after (act.after s connection) := by
        cases answer with
        | ok _ =>
            obtain ⟨rfl, rfl, rfl⟩ := Routine.performs_done_iff.mp ended
            simp
        | error e =>
            obtain ⟨rfl, rfl, rfl⟩ := Routine.performs_done_iff.mp ended
            simp
      obtain ⟨rfl, result, rfl⟩ := ending
      refine ⟨rfl, by simp [one, more], ?_, ?_⟩
      · rw [result, failure, failures]
        simp
      · intro distinct live moment member
        obtain ⟨fresh, distinct⟩ := List.nodup_cons.mp distinct
        -- the others are still live when the first has got what was sent
        have stillLive : ∀ c ∈ rest, c ∈ (act.after s connection).live := by
          intro c present
          have other : c ≠ connection := fun same => fresh (same ▸ present)
          have before := live c (List.mem_cons_of_mem _ present)
          unfold Sending.after
          split
          · simpa [Dealings.close, other] using before
          · exact before
        simp only [List.append_nil, List.mem_append] at member
        rcases member with member | member
        · exact orderly (live connection List.mem_cons_self) moment member
        · exact orderlyLater distinct stillLive moment member

theorem foldl_after_of_ne_close {act : Sending} (other : act ≠ .close)
    (connections : List Connection) (s : Dealings) : connections.foldl act.after s = s := by
  induction connections with
  | nil => rfl
  | cons connection rest hypothesis => simpa [Sending.after, other] using hypothesis

theorem foldl_after_close (connections : List Connection) (s : Dealings) :
    connections.foldl (Sending.after .close) s =
      ⟨s.issued, s.live.filter fun other => decide (other ∉ connections)⟩ := by
  induction connections generalizing s with
  | nil => simp
  | cons connection rest hypothesis =>
      rw [List.foldl_cons, hypothesis]
      simp [Sending.after, Dealings.close, Bool.and_comm]

/-- Something is sent to all that is live, and nothing else is sent. -/
structure SentToAll (act : Sending) (s t : Dealings) (trace : List (Moment Dealings)) : Prop where
  sent_eq : sent trace = s.live.map fun connection => (act, connection)
  after : t = s.live.foldl act.after s
  orderly : ∀ moment ∈ trace, Orderly moment

/-- Nothing is sent. -/
structure Silent (s t : Dealings) (trace : List (Moment Dealings)) : Prop where
  sent_eq : sent trace = []
  failed_eq : failed trace = []
  after : t = s
  orderly : ∀ moment ∈ trace, Orderly moment

theorem Silent.of_only (token : String) {r : Routine α} {a : α}
    (only : Routine.Only (Call.LocksFor token) r)
    (performed : Routine.Performs Dealings.answers s r trace a t) : Silent s t trace := by
  obtain ⟨after, nothing, noFailure, orderly⟩ := dealings_of_only only performed
  exact ⟨nothing, noFailure, after, orderly⟩

variable {bundle : Bundle}

theorem performs_sendAll (act : Sending) {errors : List Error} (enlists : Enlists bundle s)
    (performed : Routine.Performs Dealings.answers s
      (Bundle.failures act.routine bundle.connections) trace errors t) :
    SentToAll act s t trace ∧ (errors = [] ↔ failed trace = []) := by
  obtain ⟨after, sending, failures, orderly⟩ := performs_failures performed
  rw [enlists.live] at after sending orderly
  exact ⟨⟨sending, after, orderly enlists.nodup fun _ live => live⟩, failures⟩

theorem outcome_eq_ok_iff {action : String} {total : Nat} {errors : List Error} :
    Bundle.outcome action total errors = .ok () ↔ errors = [] := by
  cases errors <;> simp [Bundle.outcome]

theorem performs_commit {answer : Except Error Unit} (enlists : Enlists bundle s)
    (performed : Routine.Performs Dealings.answers s bundle.commit trace answer t) :
    SentToAll .commit s t trace ∧ (answer = .ok () ↔ failed trace = []) := by
  obtain ⟨errors, rfl, sendings⟩ := Routine.performs_bind_done_iff.mp performed
  rw [outcome_eq_ok_iff]
  exact performs_sendAll .commit enlists sendings

theorem performs_rollback {answer : Except Error Unit} (enlists : Enlists bundle s)
    (performed : Routine.Performs Dealings.answers s bundle.rollback trace answer t) :
    SentToAll .rollback s t trace ∧ (answer = .ok () ↔ failed trace = []) := by
  obtain ⟨errors, rfl, sendings⟩ := Routine.performs_bind_done_iff.mp performed
  rw [outcome_eq_ok_iff]
  exact performs_sendAll .rollback enlists sendings

theorem performs_closeAll {after : Bundle} (enlists : Enlists bundle s)
    (performed : Routine.Performs Dealings.answers s bundle.closeAll trace after t) :
    after = .empty ∧ SentToAll .close s t trace := by
  obtain ⟨errors, rfl, sendings⟩ := Routine.performs_bind_done_iff.mp performed
  exact ⟨rfl, (performs_sendAll .close enlists sendings).1⟩

theorem performs_encapsulate {store : Store} {answer : Except Error Bool} {after : Bundle}
    (enlists : Enlists bundle s)
    (performed : Routine.Performs Dealings.answers s (bundle.encapsulate store) trace
      (answer, after) t) :
    Enlists after t ∧ sent trace = [] ∧ ∀ moment ∈ trace, Orderly moment := by
  unfold Bundle.encapsulate at performed
  split at performed
  · obtain ⟨rfl, same, rfl⟩ := Routine.performs_done_iff.mp performed
    cases same
    exact ⟨enlists, rfl, by simp⟩
  · rename_i absent
    obtain ⟨reply, u, rest, rfl, connected, performed⟩ := Routine.performs_call_iff.mp performed
    cases reply with
    | error e =>
        obtain ⟨rfl, same, rfl⟩ := Routine.performs_done_iff.mp performed
        cases same
        cases connected
        exact ⟨enlists, rfl, by simpa using orderly_of_none rfl rfl⟩
    | ok connection? =>
        cases connection? with
        | none =>
            obtain ⟨rfl, same, rfl⟩ := Routine.performs_done_iff.mp performed
            cases same
            cases connected
            exact ⟨enlists, rfl, by simpa using orderly_of_none rfl rfl⟩
        | some connection =>
            obtain ⟨rfl, same, rfl⟩ := Routine.performs_done_iff.mp performed
            cases same
            obtain ⟨rfl, unissued, rfl⟩ := connected
            have single : ∀ other ∈ s.live, other.store.ownerId ≠ connection.store.ownerId := by
              intro other live sameOwner
              rw [← enlists.live] at live
              exact absent (List.any_eq_true.mpr ⟨other, live, beq_iff_eq.mpr sameOwner⟩)
            refine ⟨⟨by rw [enlists.live], ?_, ?_⟩, rfl, ?_⟩
            · rw [List.map_append, List.nodup_append]
              refine ⟨enlists.distinct, by simp, ?_⟩
              simpa using single
            · intro other live
              rcases List.mem_append.mp live with old | new
              · exact List.mem_cons_of_mem _ (enlists.issued other old)
              · exact List.mem_cons.mpr (.inl (List.mem_singleton.mp new))
            · intro moment member
              rw [List.mem_singleton.mp member]
              refine ⟨fun _ _ sending => (by cases sending), fun _ opened => ?_⟩
              cases opened
              exact single

end Parts

/-! ## Connections over time -/

section Time

variable {s t : Dealings} {trace : List (Moment Dealings)} {connection : Connection}

theorem issued_of_answers {c : Call} {answer : c.Answer}
    (answered : Dealings.answers s c answer t) (issued : connection ∈ s.issued) :
    connection ∈ t.issued := by
  cases c with
  | connect store =>
      cases answer with
      | error e => cases answered; exact issued
      | ok connection? =>
          cases connection? with
          | none => cases answered; exact issued
          | some new =>
              obtain ⟨-, -, rfl⟩ := answered
              exact List.mem_cons_of_mem _ issued
  | _ => cases answered; exact issued

/-- What is live was live before or has just been handed out. -/
theorem live_of_answers {c : Call} {answer : c.Answer} (answered : Dealings.answers s c answer t)
    (live : connection ∈ t.live) :
    connection ∈ s.live ∨ connection ∉ s.issued ∧ connection ∈ t.issued := by
  cases c with
  | connect store =>
      cases answer with
      | error e => cases answered; exact .inl live
      | ok connection? =>
          cases connection? with
          | none => cases answered; exact .inl live
          | some new =>
              obtain ⟨-, unissued, rfl⟩ := answered
              rcases List.mem_append.mp live with old | isNew
              · exact .inl old
              · rw [List.mem_singleton.mp isNew]
                exact .inr ⟨unissued, List.mem_cons_self⟩
  | close other =>
      cases answered
      exact .inl (List.mem_of_mem_filter live)
  | _ => cases answered; exact .inl live

/-- What is not live any more has been closed. -/
theorem close_of_answers {c : Call} {answer : c.Answer} (answered : Dealings.answers s c answer t)
    (live : connection ∈ s.live) (gone : connection ∉ t.live) : c = .close connection := by
  cases c with
  | connect store =>
      cases answer with
      | error e => cases answered; exact absurd live gone
      | ok connection? =>
          cases connection? with
          | none => cases answered; exact absurd live gone
          | some new =>
              obtain ⟨-, -, rfl⟩ := answered
              exact absurd (List.mem_append_left _ live) gone
  | close other =>
      cases answered
      by_contra different
      have other : connection ≠ other := fun same => different (same ▸ rfl)
      exact gone (List.mem_filter.mpr ⟨live, by simpa using other⟩)
  | _ => cases answered; exact absurd live gone

theorem live_of_opened {c : Call} {answer : c.Answer} (answered : Dealings.answers s c answer t)
    (opened : Exchange.opened? ⟨c, answer⟩ = some connection) : connection ∈ t.live := by
  cases c with
  | connect store =>
      cases answer with
      | error e => cases opened
      | ok connection? =>
          cases opened
          obtain ⟨-, -, rfl⟩ := answered
          exact List.mem_append_right _ List.mem_cons_self
  | _ => cases opened

open Routine

/-- What is live was handed out. -/
theorem issued_of_live (passes : Passes Dealings.answers s trace t)
    (start : ∀ connection ∈ s.live, connection ∈ s.issued) :
    ∀ connection ∈ t.live, connection ∈ t.issued := by
  induction passes with
  | refl s => exact start
  | step answered rest hypothesis =>
      refine hypothesis fun connection live => ?_
      rcases live_of_answers answered live with old | new
      · exact issued_of_answers answered (start connection old)
      · exact new.2

/-- A connection that was closed is never live again. -/
theorem not_live_of_passes (passes : Passes Dealings.answers s trace t)
    (issued : connection ∈ s.issued) (gone : connection ∉ s.live) : connection ∉ t.live := by
  induction passes with
  | refl s => exact gone
  | step answered rest hypothesis =>
      refine hypothesis (issued_of_answers answered issued) fun live => ?_
      rcases live_of_answers answered live with old | new
      · exact gone old
      · exact new.1 issued

/-- What is live at first and not in the end was closed in between. -/
theorem mem_closed_of_passes (passes : Passes Dealings.answers s trace t)
    (live : connection ∈ s.live) (gone : connection ∉ t.live) : connection ∈ closed trace := by
  induction passes with
  | refl s => exact absurd live gone
  | @step s u t c answer trace answered rest hypothesis =>
      by_cases still : connection ∈ u.live
      · have later := hypothesis still gone
        rw [← List.singleton_append, closed_append]
        exact List.mem_append_right _ later
      · have closing := close_of_answers answered live still
        subst closing
        rw [← List.singleton_append, closed_append]
        exact List.mem_append_left _ List.mem_cons_self

end Time

end TransactionKit
