import TransactionKit.Lock.Acquisition

/-!
Dialogues: what a transaction lock asks of its strategy and of its deadline, and how it goes on with
the answers. A dialogue names neither the strategy nor the owner, so two locks can have the same
one. A conversation is what has been asked and answered so far, the time that is left included. Two
conversations of one dialogue in which equal questions after equal pasts get equal answers are the
same as far as both have come (`Dialogue.Unfolds.same`). What may be asked at all can be told from
the past (`Dialogue.Conducts`).
-/

namespace TransactionKit

/-- Something that a transaction lock asks of its strategy or of its deadline. -/
inductive Inquiry where
  /-- Let the strategy acquire a key within a timeout, in at most so many attempts. -/
  | lock (attempts : Nat) (key : LockKey) (timeout : Timeout)
  /-- Let the strategy release a key. -/
  | release (key : LockKey)
  /-- Let the strategy check that a key is still held. -/
  | isHeldBy (key : LockKey)
  /-- Set the deadline. -/
  | start (timeout : Timeout)
  /-- The time left until the deadline. -/
  | remaining
  /-- Whether the deadline is reached. -/
  | expired
  /-- Sleep, but not beyond the deadline. -/
  | pause (nanos : Nat)
deriving DecidableEq, Repr

namespace Inquiry

/-- The answers that an inquiry can have. -/
@[reducible] def Answer : Inquiry → Type
  | lock .. => Except Error Unit
  | release _ => Except Error Bool
  | isHeldBy _ => Except Error Bool
  | start _ => Unit
  | remaining => Timeout
  | expired => Bool
  | pause _ => Unit

/-- How an inquiry of an owner is answered before a deadline, and the deadline after it. -/
def routine (backend : Backend) (owner : Owner) (deadline : Deadline) :
    (inquiry : Inquiry) → Routine (inquiry.Answer × Deadline)
  | lock attempts key timeout => do return (← backend.lock attempts key owner timeout, deadline)
  | release key => do return (← backend.release key owner, deadline)
  | isHeldBy key => do return (← backend.isHeldBy key owner, deadline)
  | start timeout => do return ((), ← Deadline.after timeout)
  | remaining => do return (← deadline.remaining, deadline)
  | expired => do return (← deadline.expired, deadline)
  | pause nanos => do return (← deadline.pause nanos, deadline)

end Inquiry

/-- An inquiry with the answer it got. -/
structure Turn where
  inquiry : Inquiry
  answer : inquiry.Answer

/-- A computation with inquiries in it. -/
inductive Dialogue (α : Type) where
  /-- Finished. -/
  | done (result : α)
  /-- An inquiry, and how to go on with its answer. -/
  | ask (inquiry : Inquiry) (next : inquiry.Answer → Dialogue α)
  /-- Out of rounds. -/
  | starved

namespace Dialogue

variable {α β γ : Type}

/-- One dialogue after another. -/
def bind : Dialogue α → (α → Dialogue β) → Dialogue β
  | done a, f => f a
  | ask inquiry next, f => ask inquiry fun answer => (next answer).bind f
  | starved, _ => starved

instance : Monad Dialogue where
  pure := done
  bind := bind

@[simp] theorem done_bind (a : α) (f : α → Dialogue β) : (done a >>= f) = f a := rfl

@[simp] theorem ask_bind (inquiry : Inquiry) (next : inquiry.Answer → Dialogue α)
    (f : α → Dialogue β) :
    (ask inquiry next >>= f) = ask inquiry fun answer => next answer >>= f := rfl

private theorem bind_done (d : Dialogue α) : (d >>= done) = d := by
  induction d with
  | done a => rfl
  | ask inquiry next hypothesis => exact congrArg (ask inquiry) (funext hypothesis)
  | starved => rfl

private theorem bind_bind (d : Dialogue α) (f : α → Dialogue β) (g : β → Dialogue γ) :
    (d >>= f >>= g) = (d >>= fun a => f a >>= g) := by
  induction d with
  | done a => rfl
  | ask inquiry next hypothesis => exact congrArg (ask inquiry) (funext hypothesis)
  | starved => rfl

instance : LawfulMonad Dialogue :=
  .mk' Dialogue bind_done (fun _ _ => rfl) bind_bind

/-- A dialogue of one inquiry. -/
def inquire (inquiry : Inquiry) : Dialogue inquiry.Answer :=
  ask inquiry done

/-- A dialogue of an owner with a strategy. -/
def routine (backend : Backend) (owner : Owner) : Dialogue α → Deadline → Routine α
  | done a, _ => .done a
  | ask inquiry next, deadline => do
    let (answer, deadline) ← inquiry.routine backend owner deadline
    (next answer).routine backend owner deadline
  | starved, _ => .starved

/-! ## Conversations -/

/-- What is left of a dialogue after a conversation, which lists its turns in order. -/
inductive Unfolds : Dialogue α → List Turn → Dialogue α → Prop where
  | refl (d : Dialogue α) : Unfolds d [] d
  | turn {inquiry : Inquiry} {next : inquiry.Answer → Dialogue α} {answer : inquiry.Answer}
      {talk : List Turn} {rest : Dialogue α} (later : Unfolds (next answer) talk rest) :
      Unfolds (ask inquiry next) (⟨inquiry, answer⟩ :: talk) rest

/-- Nothing is left to be asked. -/
def Over : Dialogue α → Prop
  | done _ | starved => True
  | ask .. => False

theorem Unfolds.eq_of_over {d rest : Dialogue α} {talk : List Turn} (unfolds : d.Unfolds talk rest)
    (ended : d.Over) : talk = [] ∧ rest = d := by
  cases unfolds with
  | refl => exact ⟨rfl, rfl⟩
  | turn later => exact ended.elim

/-- A conversation of a dialogue that is under a law, with another conversation after it where the
dialogue has come to a result. -/
def Chained (d : Dialogue α) (law : List Turn → Dialogue α → Prop) (onward : α → List Turn → Prop)
    (talk : List Turn) : Prop :=
  ∃ first more rest, talk = first ++ more ∧ d.Unfolds first rest ∧ law first rest ∧
    (more = [] ∨ ∃ result, rest = done result ∧ onward result more)

/-- A conversation of a sequence is one of its first part and then one of its second part. -/
theorem Unfolds.exists_append {d : Dialogue α} {f : α → Dialogue β} {rest : Dialogue β}
    {talk : List Turn} (unfolds : (d >>= f).Unfolds talk rest) :
    ∃ first more between, talk = first ++ more ∧ d.Unfolds first between ∧
      (more = [] ∨ ∃ a, between = done a ∧ (f a).Unfolds more rest) := by
  induction d generalizing talk with
  | done a => exact ⟨[], talk, done a, rfl, .refl _, .inr ⟨a, rfl, unfolds⟩⟩
  | starved =>
    obtain ⟨rfl, -⟩ := unfolds.eq_of_over trivial
    exact ⟨[], [], starved, rfl, .refl _, .inl rfl⟩
  | ask inquiry next hypothesis =>
    cases unfolds with
    | refl => exact ⟨[], [], ask inquiry next, rfl, .refl _, .inl rfl⟩
    | @turn _ _ answer talk _ unfolds =>
      obtain ⟨first, more, between, rfl, start, later⟩ := hypothesis answer unfolds
      exact ⟨⟨inquiry, answer⟩ :: first, more, between, rfl, .turn start, later⟩

theorem Unfolds.chained {d : Dialogue α} {f : α → Dialogue β} {rest : Dialogue β}
    {talk : List Turn} {law : List Turn → Dialogue α → Prop} {onward : α → List Turn → Prop}
    (unfolds : (d >>= f).Unfolds talk rest)
    (start : ∀ talk rest, d.Unfolds talk rest → law talk rest)
    (later : ∀ a talk, (f a).Unfolds talk rest → onward a talk) : d.Chained law onward talk := by
  obtain ⟨first, more, between, rfl, unfolds, rest⟩ := unfolds.exists_append
  refine ⟨first, more, between, rfl, unfolds, start _ _ unfolds, rest.imp_right ?_⟩
  rintro ⟨a, rfl, further⟩
  exact ⟨a, rfl, later a more further⟩

end Dialogue

/-- Wherever two conversations are the same up to an inquiry that both go on with, it gets the same
answer in both. -/
def AnsweredAlike (talk other : List Turn) : Prop :=
  ∀ past inquiry answer reply, past ++ [⟨inquiry, answer⟩] <+: talk →
    past ++ [⟨inquiry, reply⟩] <+: other → reply = answer

theorem AnsweredAlike.tail {turn : Turn} {talk other : List Turn}
    (alike : AnsweredAlike (turn :: talk) (turn :: other)) : AnsweredAlike talk other := by
  intro past inquiry answer reply here there
  exact alike (turn :: past) inquiry answer reply (List.cons_prefix_cons.mpr ⟨rfl, here⟩)
    (List.cons_prefix_cons.mpr ⟨rfl, there⟩)

namespace Dialogue

variable {α β : Type}

/-- Of two conversations that are answered alike one goes on where the other has come to. -/
theorem Unfolds.alike {d rest left : Dialogue α} {talk other : List Turn}
    (unfolds : d.Unfolds talk rest) (unfoldsToo : d.Unfolds other left)
    (alike : AnsweredAlike talk other) :
    (∃ more, other = talk ++ more ∧ rest.Unfolds more left) ∨
      ∃ more, talk = other ++ more ∧ left.Unfolds more rest := by
  induction unfolds generalizing other with
  | refl d => exact .inl ⟨other, rfl, unfoldsToo⟩
  | @turn inquiry next answer talk rest later hypothesis =>
    cases unfoldsToo with
    | refl => exact .inr ⟨_, rfl, .turn later⟩
    | @turn _ _ reply other _ laterToo =>
      -- both ask the same first, so both go on with the same answer
      obtain rfl : reply = answer := alike [] inquiry answer reply (by simp) (by simp)
      rcases hypothesis laterToo alike.tail with ⟨more, rfl, onward⟩ | ⟨more, rfl, onward⟩
      · exact .inl ⟨more, rfl, onward⟩
      · exact .inr ⟨more, rfl, onward⟩

/-- Conversations that are answered alike are the same as far as both have come, and once both are
over they have come to the same end. -/
theorem Unfolds.same {d rest left : Dialogue α} {talk other : List Turn}
    (unfolds : d.Unfolds talk rest) (unfoldsToo : d.Unfolds other left)
    (alike : AnsweredAlike talk other) :
    (talk <+: other ∨ other <+: talk) ∧ (rest.Over → left.Over → other = talk ∧ left = rest) := by
  rcases unfolds.alike unfoldsToo alike with ⟨more, rfl, onward⟩ | ⟨more, rfl, onward⟩
  · refine ⟨.inl (List.prefix_append ..), fun ended _ => ?_⟩
    obtain ⟨rfl, rfl⟩ := onward.eq_of_over ended
    exact ⟨List.append_nil _, rfl⟩
  · refine ⟨.inr (List.prefix_append ..), fun _ ended => ?_⟩
    obtain ⟨rfl, rfl⟩ := onward.eq_of_over ended
    exact ⟨(List.append_nil _).symm, rfl⟩

/-! ## What may be asked -/

variable {permits : List Turn → Inquiry → Prop}

/-- Whatever is answered, every inquiry is permitted after the turns before it and every result is
one that those turns yield. -/
def Conducts (permits : List Turn → Inquiry → Prop) (yields : List Turn → α → Prop) :
    List Turn → Dialogue α → Prop
  | past, done a => yields past a
  | past, ask inquiry next => permits past inquiry ∧
    ∀ answer, Conducts permits yields (past ++ [⟨inquiry, answer⟩]) (next answer)
  | _, starved => True

/-- In a sequence the second part goes on from whatever the first part yields. -/
theorem Conducts.bind {between : List Turn → α → Prop} {yields : List Turn → β → Prop}
    {past : List Turn} {d : Dialogue α} {f : α → Dialogue β}
    (first : Conducts permits between past d)
    (second : ∀ past a, between past a → Conducts permits yields past (f a)) :
    Conducts permits yields past (d >>= f) := by
  induction d generalizing past with
  | done a => exact second past a first
  | ask inquiry next hypothesis =>
    obtain ⟨permitted, afterwards⟩ := first
    exact ⟨permitted, fun answer => hypothesis answer (afterwards answer)⟩
  | starved => trivial

/-- Conduct with less to show about the results. -/
theorem Conducts.mono {yields weaker : List Turn → α → Prop} {past : List Turn} {d : Dialogue α}
    (conduct : Conducts permits yields past d)
    (weaken : ∀ past a, yields past a → weaker past a) : Conducts permits weaker past d := by
  induction d generalizing past with
  | done a => exact weaken past a conduct
  | ask inquiry next hypothesis =>
    obtain ⟨permitted, afterwards⟩ := conduct
    exact ⟨permitted, fun answer => hypothesis answer (afterwards answer)⟩
  | starved => trivial

/-- What was said before a dialogue stays said. -/
theorem Conducts.onward {yields : List Turn → α → Prop} {before past : List Turn} {d : Dialogue α}
    (conduct : Conducts permits yields past d) (earlier : before <+: past) :
    Conducts permits (fun later a => yields later a ∧ before <+: later) past d := by
  induction d generalizing past with
  | done a => exact ⟨conduct, earlier⟩
  | ask inquiry next hypothesis =>
    obtain ⟨permitted, afterwards⟩ := conduct
    refine ⟨permitted, fun answer => hypothesis answer (afterwards answer) ?_⟩
    exact earlier.trans (List.prefix_append ..)
  | starved => trivial

/-- What a permitted inquiry keeps, whatever is answered, holds all along. -/
theorem Conducts.keeps {yields : List Turn → α → Prop} {past talk : List Turn}
    {d rest : Dialogue α} (holds : List Turn → Prop) (conduct : Conducts permits yields past d)
    (unfolds : d.Unfolds talk rest) (start : holds past)
    (step : ∀ past turn, holds past → permits past turn.inquiry → holds (past ++ [turn])) :
    holds (past ++ talk) := by
  induction unfolds generalizing past with
  | refl d => simpa using start
  | @turn inquiry next answer talk rest later hypothesis =>
    obtain ⟨permitted, afterwards⟩ := conduct
    simpa using hypothesis (afterwards answer) (step past ⟨inquiry, answer⟩ start permitted)

/-- A conversation keeps to the conduct of its dialogue, and so does what is left. -/
theorem Conducts.unfolds {yields : List Turn → α → Prop} {past talk : List Turn}
    {d rest : Dialogue α} (conduct : Conducts permits yields past d)
    (unfolds : d.Unfolds talk rest) :
    Conducts permits yields (past ++ talk) rest ∧
      ∀ before turn after, talk = before ++ turn :: after →
        permits (past ++ before) turn.inquiry := by
  induction unfolds generalizing past with
  | refl d => simpa using conduct
  | @turn inquiry next answer talk rest later hypothesis =>
    obtain ⟨permitted, afterwards⟩ := conduct
    obtain ⟨remains, within⟩ := hypothesis (afterwards answer)
    rw [List.append_assoc, List.singleton_append] at remains
    refine ⟨remains, fun before turn after split => ?_⟩
    rcases List.cons_eq_append_iff.mp split with ⟨rfl, start⟩ | ⟨earlier, rfl, tail⟩
    · obtain ⟨rfl, -⟩ := List.cons.inj start
      simpa using permitted
    · simpa using within earlier turn after tail

end Dialogue

end TransactionKit
