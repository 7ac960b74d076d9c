import TransactionKit.Proofs.Connection.Dealings
import TransactionKit.Proofs.Scope.Operation

/-!
What the operations of a scope do to its connections. Whatever lock is handed to the scope and
whatever lock tables answer, an operation either keeps the connections that are enlisted
(`Keeps`) or closes each of them once and forgets them (`Closes`); it does the latter when the base
level is left and when the base lock turns out to be lost. Committing and rolling back comes before
that and goes to every connection (`SendsToAll`).
-/

namespace TransactionKit

variable {s t : Dealings} {trace : List (Moment Dealings)}

theorem Silent.append {u : Dealings} {first second : List (Moment Dealings)}
    (one : Silent s u first) (other : Silent u t second) : Silent s t (first ++ second) where
  sent_eq := by simp [one.sent_eq, other.sent_eq]
  failed_eq := by simp [one.failed_eq, other.failed_eq]
  after := other.after.trans one.after
  orderly moment member :=
    (List.mem_append.mp member).elim (one.orderly moment) (other.orderly moment)

theorem SentToAll.of_silent {act : Sending} {u : Dealings} {first second : List (Moment Dealings)}
    (silent : Silent s u first) (all : SentToAll act u t second) :
    SentToAll act s t (first ++ second) := by
  obtain ⟨nothing, -, rfl, orderly⟩ := silent
  refine ⟨by simp [nothing, all.sent_eq], all.after, fun moment member => ?_⟩
  exact (List.mem_append.mp member).elim (orderly moment) (all.orderly moment)

theorem SentToAll.silent {act : Sending} {u : Dealings} {first second : List (Moment Dealings)}
    (all : SentToAll act s u first) (silent : Silent u t second) :
    SentToAll act s t (first ++ second) := by
  obtain ⟨nothing, -, rfl, orderly⟩ := silent
  refine ⟨by simp [nothing, all.sent_eq], all.after, fun moment member => ?_⟩
  exact (List.mem_append.mp member).elim (all.orderly moment) (orderly moment)

/-- Nothing is sent, the enlisted connections stay, and a scope that is active stays so. -/
structure Keeps (before after : Scope) (s t : Dealings) (trace : List (Moment Dealings)) :
    Prop where
  silent : Silent s t trace
  connections : after.connections = before.connections
  active : before.isActive = true → after.isActive = true

/-- All that is live is closed and forgotten. -/
structure Closes (after : Scope) (s t : Dealings) (trace : List (Moment Dealings)) : Prop where
  sent : SentToAll .close s t trace
  connections : after.connections = .empty

variable {scope after : Scope}

theorem performs_clear (enlists : Enlists scope.connections s)
    (performed : Routine.Performs Dealings.answers s scope.clear trace after t) :
    after.base? = none ∧ Closes after s t trace := by
  unfold Scope.clear at performed
  cases held : scope.base? with
  | none =>
      simp only [held] at performed
      obtain ⟨bundle, rfl, closing⟩ := Routine.performs_bind_done_iff.mp performed
      obtain ⟨rfl, all⟩ := performs_closeAll enlists closing
      exact ⟨rfl, all, rfl⟩
  | some base =>
      simp only [held] at performed
      obtain ⟨_, u, first, second, rfl, discarding, performed⟩ :=
        Routine.performs_bind_iff.mp performed
      have silent := Silent.of_only "" base.only_discard discarding
      obtain ⟨bundle, rfl, closing⟩ := Routine.performs_bind_done_iff.mp performed
      obtain ⟨rfl, all⟩ := performs_closeAll (silent.after ▸ enlists) closing
      exact ⟨rfl, .of_silent silent all, rfl⟩

theorem performs_release (enlists : Enlists scope.connections s)
    (performed : Routine.Performs Dealings.answers s scope.release trace after t) :
    (scope.depth = 1 → after.base? = none ∧ Closes after s t trace) ∧
      (scope.depth ≠ 1 → Keeps scope after s t trace) := by
  unfold Scope.release at performed
  cases held : scope.base? with
  | none =>
      simp only [held] at performed
      obtain ⟨rfl, rfl, rfl⟩ := Routine.performs_done_iff.mp performed
      have inactive : after.depth = 0 := by simp [Scope.depth, held]
      refine ⟨fun one => absurd (inactive.symm.trans one) Nat.zero_ne_one, fun _ => ?_⟩
      exact ⟨⟨rfl, rfl, rfl, by simp⟩, rfl, id⟩
  | some base =>
      simp only [held] at performed
      have depth : scope.depth = 1 + base.nested.length := by
        simp [Scope.depth, TransactionLock.depth, held]
      rcases List.eq_nil_or_concat base.nested with flat | ⟨outer, inner, nested⟩
      · rw [TransactionLock.popNested_of_nil flat, Routine.done_bind] at performed
        obtain ⟨_, u, first, second, rfl, discarding, performed⟩ :=
          Routine.performs_bind_iff.mp performed
        have silent := Silent.of_only "" base.only_discard discarding
        obtain ⟨bundle, rfl, closing⟩ := Routine.performs_bind_done_iff.mp performed
        obtain ⟨rfl, all⟩ := performs_closeAll (silent.after ▸ enlists) closing
        refine ⟨fun _ => ⟨rfl, .of_silent silent all, rfl⟩, fun inner => ?_⟩
        exact absurd (by simp [depth, flat]) inner
      · rw [List.concat_eq_append] at nested
        rw [TransactionLock.popNested_of_concat nested] at performed
        obtain ⟨popped, u, first, second, rfl, releasing, performed⟩ :=
          Routine.performs_bind_iff.mp performed
        obtain ⟨left, rfl, giving⟩ := Routine.performs_bind_done_iff.mp releasing
        have silent := Silent.of_only "" inner.only_release giving
        obtain ⟨rfl, rfl, rfl⟩ := Routine.performs_done_iff.mp performed
        refine ⟨fun one => ?_, fun _ => ⟨by simpa using silent, rfl, fun _ => rfl⟩⟩
        simp [depth, nested] at one

theorem performs_enterBase {rounds : Nat} {timeout? : Option Timeout} {lock : TransactionLock}
    {answer : Except Error Unit}
    (performed : Routine.Performs Dealings.answers s (scope.enterBase rounds timeout? lock) trace
      (answer, after) t) : Keeps scope after s t trace := by
  rw [Scope.enterBase_eq] at performed
  obtain ⟨⟨result, locked⟩, u, first, second, rfl, locking, performed⟩ :=
    Routine.performs_bind_iff.mp performed
  have silent := Silent.of_only _ (lock.only_lockWithin rounds timeout?) locking
  cases result with
  | ok _ =>
      obtain ⟨rfl, same, rfl⟩ := Routine.performs_done_iff.mp performed
      cases same
      exact ⟨by simpa using silent, rfl, fun _ => rfl⟩
  | error e =>
      obtain ⟨_, v, second, third, rfl, discarding, performed⟩ :=
        Routine.performs_bind_iff.mp performed
      obtain ⟨rfl, same, rfl⟩ := Routine.performs_done_iff.mp performed
      cases same
      have discarded := Silent.of_only "" locked.only_discard discarding
      exact ⟨silent.append (by simpa using discarded), rfl, id⟩

/-- Entering a lock keeps the connections, unless a base lock is found to be lost: then they are
closed before the lock is acquired. -/
theorem performs_enter {rounds : Nat} {timeout? : Option Timeout} {lock : TransactionLock}
    {answer : Except Error Unit} (enlists : Enlists scope.connections s)
    (performed : Routine.Performs Dealings.answers s (scope.enter rounds timeout? lock) trace
      (answer, after) t) :
    (scope.base? = none ∧ Keeps scope after s t trace) ∨
      ∃ base valid left check rest u, scope.base? = some base ∧ trace = check ++ rest ∧
        Routine.Performs Dealings.answers s base.isLocked check (valid, left) u ∧
        (valid = true → Keeps scope after s t trace) ∧
        (valid = false → Closes after s t trace) := by
  unfold Scope.enter at performed
  cases held : scope.base? with
  | none =>
      simp only [held] at performed
      exact .inl ⟨rfl, performs_enterBase performed⟩
  | some base =>
      simp only [held] at performed
      obtain ⟨⟨valid, left⟩, u, check, rest, rfl, checking, performed⟩ :=
        Routine.performs_bind_iff.mp performed
      have silent := Silent.of_only "" base.only_isLocked checking
      refine .inr ⟨base, valid, left, check, rest, u, rfl, rfl, checking, ?_, ?_⟩
      · rintro rfl
        obtain ⟨⟨answer, base⟩, v, second, third, rfl, pushing, performed⟩ :=
          Routine.performs_bind_iff.mp performed
        obtain ⟨rfl, same, rfl⟩ := Routine.performs_done_iff.mp performed
        cases same
        have pushed := Silent.of_only "" (TransactionLock.only_pushNested _ _) pushing
        exact ⟨silent.append (by simpa using pushed), rfl, fun _ => rfl⟩
      · rintro rfl
        obtain ⟨cleared, v, second, third, rfl, clearing, performed⟩ :=
          Routine.performs_bind_iff.mp performed
        obtain ⟨gone, all, forgotten⟩ := performs_clear (silent.after ▸ enlists) clearing
        have keeps := performs_enterBase performed
        exact ⟨.of_silent silent (all.silent keeps.silent), keeps.connections.trans forgotten⟩

/-- What an operation leaves behind: the scope has enlisted what is live, and if it is not active
any more, all that was live has been closed. -/
structure Settles (before after : Scope) (s t : Dealings) (trace : List (Moment Dealings)) :
    Prop where
  enlists : Enlists after.connections t
  orderly : ∀ moment ∈ trace, Orderly moment
  closes : (before.isActive = true → after.isActive = true) ∨ closed trace = s.live

theorem Keeps.settles (enlists : Enlists scope.connections s)
    (keeps : Keeps scope after s t trace) :
    Settles scope after s t trace where
  enlists := by rw [keeps.connections, keeps.silent.after]; exact enlists
  orderly := keeps.silent.orderly
  closes := .inl keeps.active

theorem closed_of_sentToAll {act : Sending} (all : SentToAll act s t trace) :
    closed trace = if act = .close then s.live else [] := by
  unfold closed
  rw [all.sent_eq, List.filterMap_map]
  split
  · rename_i close
    simp [close]
  · rename_i other
    simp [other]

theorem Closes.settles (closes : Closes after s t trace) : Settles scope after s t trace where
  enlists := by
    have nothing : t.live = [] := by simp [closes.sent.after, foldl_after_close]
    exact ⟨by rw [closes.connections, nothing]; rfl, by simp [nothing], by simp [nothing]⟩
  orderly := closes.sent.orderly
  closes := .inr (closed_of_sentToAll closes.sent)

/-- What is no closing leaves the same connections live. -/
theorem SentToAll.state_eq {act : Sending} (other : act ≠ .close)
    (all : SentToAll act s t trace) : t = s :=
  all.after.trans (foldl_after_of_ne_close other _ s)

theorem SentToAll.settles {act : Sending} (other : act ≠ .close) (all : SentToAll act s t trace)
    (enlists : Enlists scope.connections s) : Settles scope scope s t trace where
  enlists := all.state_eq other ▸ enlists
  orderly := all.orderly
  closes := .inl id

/-- Something that is no closing, sent to all before the rest of an operation. -/
theorem Settles.of_sentToAll {act : Sending} {u : Dealings} {first second : List (Moment Dealings)}
    (other : act ≠ .close) (all : SentToAll act s u first)
    (settles : Settles scope after s t second) : Settles scope after s t (first ++ second) where
  enlists := settles.enlists
  orderly moment member :=
    (List.mem_append.mp member).elim (all.orderly moment) (settles.orderly moment)
  closes := by
    refine settles.closes.imp_right fun closes => ?_
    rw [closed_append, closed_of_sentToAll all, if_neg other, List.nil_append, closes]

theorem performs_release_settles (enlists : Enlists scope.connections s)
    (performed : Routine.Performs Dealings.answers s scope.release trace after t) :
    Settles scope after s t trace := by
  obtain ⟨base, inner⟩ := performs_release enlists performed
  by_cases one : scope.depth = 1
  · exact (base one).2.settles
  · exact (inner one).settles enlists

/-- What failed was sent. -/
theorem mem_sent_of_mem_failed {x : Sending × Connection} (failure : x ∈ failed trace) :
    x ∈ sent trace := by
  obtain ⟨moment, member, failure⟩ := List.mem_filterMap.mp failure
  refine List.mem_filterMap.mpr ⟨moment, member, ?_⟩
  unfold Exchange.failure? at failure
  split at failure
  · rename_i same
    rw [same]
    exact failure
  · rename_i same
    rw [same]
    exact failure
  · rename_i same
    rw [same]
    exact failure
  · cases failure

/-- Of all that is sent something goes to every connection of a bundle, once and in order, and the
answer is good exactly if it never failed. -/
structure SendsToAll (act : Sending) (connections : List Connection)
    (trace : List (Moment Dealings)) (answer : Except Error Unit) : Prop where
  sent_eq : (sent trace).filter (fun x => decide (x.1 = act)) = connections.map fun c => (act, c)
  ok_iff : answer = .ok () ↔ ∀ connection, (act, connection) ∉ failed trace

/-- What is only closed later does not change to whom something was sent before. -/
theorem SendsToAll.of_sentToAll {act : Sending} {u : Dealings} {answer : Except Error Unit}
    {first second : List (Moment Dealings)} (other : act ≠ .close) (all : SentToAll act s u first)
    (result : answer = .ok () ↔ failed first = [])
    (closings : ∀ x ∈ sent second, x.1 = .close) :
    SendsToAll act s.live (first ++ second) answer where
  sent_eq := by
    have none : (sent second).filter (fun x => decide (x.1 = act)) = [] := by
      rw [List.filter_eq_nil_iff]
      intro x member
      simp [closings x member, Ne.symm other]
    simp [all.sent_eq, none]
  ok_iff := by
    rw [result, List.eq_nil_iff_forall_not_mem]
    constructor
    · intro fine connection failure
      rw [failed_append] at failure
      rcases List.mem_append.mp failure with early | late
      · exact fine _ early
      · exact other (closings _ (mem_sent_of_mem_failed late))
    · rintro fine ⟨sort, connection⟩ failure
      have member := mem_sent_of_mem_failed failure
      rw [all.sent_eq] at member
      obtain ⟨_, -, same⟩ := List.mem_map.mp member
      cases same
      exact fine connection (by simp [failure])

theorem performs_release_closings (enlists : Enlists scope.connections s)
    (performed : Routine.Performs Dealings.answers s scope.release trace after t) :
    ∀ x ∈ sent trace, x.1 = .close := by
  obtain ⟨base, inner⟩ := performs_release enlists performed
  by_cases one : scope.depth = 1
  · simp [(base one).2.sent.sent_eq]
  · simp [(inner one).silent.sent_eq]

theorem performs_commitAndRelease_inner {answer : Except Error Unit} (inner : 1 < scope.depth)
    (enlists : Enlists scope.connections s)
    (performed : Routine.Performs Dealings.answers s scope.commitAndRelease trace
      (answer, after) t) :
    Keeps scope after s t trace := by
  rw [Scope.commitAndRelease_of_inner inner] at performed
  obtain ⟨left, same, performed⟩ := Routine.performs_bind_done_iff.mp performed
  cases same
  exact (performs_release enlists performed).2 (by omega)

theorem performs_commitAndRelease_base {answer : Except Error Unit} (base : ¬ 1 < scope.depth)
    (enlists : Enlists scope.connections s)
    (performed : Routine.Performs Dealings.answers s scope.commitAndRelease trace
      (answer, after) t) :
    SendsToAll .commit s.live trace answer ∧ Settles scope after s t trace := by
  rw [Scope.commitAndRelease_of_base base] at performed
  obtain ⟨result, u, first, second, rfl, committing, performed⟩ :=
    Routine.performs_bind_iff.mp performed
  obtain ⟨left, same, releasing⟩ := Routine.performs_bind_done_iff.mp performed
  cases same
  obtain ⟨all, result⟩ := performs_commit enlists committing
  obtain rfl : u = s := all.state_eq (by decide)
  refine ⟨.of_sentToAll (by decide) all result (performs_release_closings enlists releasing), ?_⟩
  exact .of_sentToAll (by decide) all (performs_release_settles enlists releasing)

theorem performs_rollbackAndRelease {answer : Except Error Unit}
    (enlists : Enlists scope.connections s)
    (performed : Routine.Performs Dealings.answers s scope.rollbackAndRelease trace
      (answer, after) t) :
    SendsToAll .rollback s.live trace answer ∧ Settles scope after s t trace := by
  obtain ⟨result, u, first, second, rfl, rollingBack, performed⟩ :=
    Routine.performs_bind_iff.mp performed
  obtain ⟨left, same, clearing⟩ := Routine.performs_bind_done_iff.mp performed
  cases same
  obtain ⟨all, result⟩ := performs_rollback enlists rollingBack
  obtain rfl : u = s := all.state_eq (by decide)
  have closes := (performs_clear enlists clearing).2
  refine ⟨.of_sentToAll (by decide) all result (by simp [closes.sent.sent_eq]), ?_⟩
  exact .of_sentToAll (by decide) all closes.settles

theorem performs_enter_settles {rounds : Nat} {timeout? : Option Timeout} {lock : TransactionLock}
    {answer : Except Error Unit} (enlists : Enlists scope.connections s)
    (performed : Routine.Performs Dealings.answers s (scope.enter rounds timeout? lock) trace
      (answer, after) t) : Settles scope after s t trace := by
  rcases performs_enter enlists performed with
    ⟨-, keeps⟩ | ⟨base, valid, left, check, rest, u, -, -, -, keeps, closes⟩
  · exact keeps.settles enlists
  · cases valid with
    | true => exact (keeps rfl).settles enlists
    | false => exact (closes rfl).settles

/-- Every operation settles the connections of the scope. -/
theorem performs_operation {operation : ScopeOperation} {answer : operation.Answer}
    (enlists : Enlists scope.connections s)
    (performed : Routine.Performs Dealings.answers s (operation.routine scope) trace
      (answer, after) t) : Settles scope after s t trace := by
  cases operation with
  | acquire rounds timeout lock => exact performs_enter_settles enlists performed
  | acquireDefault rounds lock => exact performs_enter_settles enlists performed
  | release =>
      obtain ⟨left, same, releasing⟩ := Routine.performs_bind_done_iff.mp performed
      cases same
      exact performs_release_settles enlists releasing
  | encapsulate store =>
      obtain ⟨⟨result, bundle⟩, same, opening⟩ := Routine.performs_bind_done_iff.mp performed
      cases same
      obtain ⟨enlists, -, orderly⟩ := performs_encapsulate enlists opening
      exact ⟨enlists, orderly, .inl id⟩
  | commit =>
      obtain ⟨result, same, committing⟩ := Routine.performs_bind_done_iff.mp performed
      cases same
      have sent := (performs_commit enlists committing).1.settles (by decide) enlists
      exact ⟨sent.enlists, sent.orderly, .inl id⟩
  | rollback =>
      obtain ⟨result, same, rollingBack⟩ := Routine.performs_bind_done_iff.mp performed
      cases same
      have sent := (performs_rollback enlists rollingBack).1.settles (by decide) enlists
      exact ⟨sent.enlists, sent.orderly, .inl id⟩
  | commitAndRelease =>
      by_cases inner : 1 < scope.depth
      · exact (performs_commitAndRelease_inner inner enlists performed).settles enlists
      · exact (performs_commitAndRelease_base inner enlists performed).2
  | rollbackAndRelease => exact (performs_rollbackAndRelease enlists performed).2
  | clear =>
      obtain ⟨left, same, clearing⟩ := Routine.performs_bind_done_iff.mp performed
      cases same
      exact (performs_clear enlists clearing).2.settles

end TransactionKit
