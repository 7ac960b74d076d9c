import TransactionKit.Proofs.Routine.Conduct

/-!
Executions of a routine from its first call to its result. An environment says which answers a call
can get in a state and which states can follow, so an execution need not be determined by where it
starts. What happened on the way is kept as a trace, the earliest call first, each with the state
that it met. An execution of a sequence is one of its first part followed by one of its second part
(`performs_bind_iff`), so a routine is taken apart along its text.
-/

namespace TransactionKit

/-- How a call can be answered in a state, and the state after it. -/
abbrev Environment (σ : Type) :=
  σ → (c : Call) → c.Answer → σ → Prop

/-- A call with its answer, and the state that it met. -/
structure Moment (σ : Type) where
  state : σ
  exchange : Exchange

namespace Routine

variable {α β σ : Type}

/-- A routine can go from one state to another with a trace and a result. -/
inductive Performs (environment : Environment σ) :
    σ → Routine α → List (Moment σ) → α → σ → Prop where
  | done (s : σ) (a : α) : Performs environment s (.done a) [] a s
  | call {s u t : σ} {c : Call} {next : c.Answer → Routine α} {answer : c.Answer}
      {trace : List (Moment σ)} {a : α} (answered : environment s c answer u)
      (rest : Performs environment u (next answer) trace a t) :
      Performs environment s (.call c next) (⟨s, c, answer⟩ :: trace) a t

variable {environment : Environment σ} {s t : σ} {trace : List (Moment σ)}

@[simp] theorem performs_done_iff {a b : α} :
    Performs environment s (.done a) trace b t ↔ trace = [] ∧ b = a ∧ t = s := by
  constructor
  · rintro ⟨⟩
    exact ⟨rfl, rfl, rfl⟩
  · rintro ⟨rfl, rfl, rfl⟩
    exact .done _ _

theorem performs_call_iff {c : Call} {next : c.Answer → Routine α} {a : α} :
    Performs environment s (.call c next) trace a t ↔
      ∃ answer u rest, trace = ⟨s, c, answer⟩ :: rest ∧ environment s c answer u ∧
        Performs environment u (next answer) rest a t := by
  constructor
  · rintro ⟨⟩
    exact ⟨_, _, _, rfl, ‹_›, ‹_›⟩
  · rintro ⟨answer, u, rest, rfl, answered, performed⟩
    exact .call answered performed

@[simp] theorem not_performs_starved {a : α} :
    ¬ Performs environment s (.starved : Routine α) trace a t := by
  rintro ⟨⟩

/-- An execution of a sequence splits where its first part ends. -/
theorem performs_bind_iff {r : Routine α} {f : α → Routine β} {b : β} :
    Performs environment s (r >>= f) trace b t ↔
      ∃ a u first second, trace = first ++ second ∧ Performs environment s r first a u ∧
        Performs environment u (f a) second b t := by
  constructor
  · intro performed
    induction r generalizing s trace with
    | done a => exact ⟨a, s, [], trace, rfl, .done s a, performed⟩
    | call c next hypothesis =>
        obtain ⟨answer, u, rest, rfl, answered, performed⟩ := performs_call_iff.mp performed
        obtain ⟨a, v, first, second, rfl, start, finish⟩ := hypothesis answer performed
        exact ⟨a, v, _, second, rfl, .call answered start, finish⟩
    | starved => exact absurd performed not_performs_starved
  · rintro ⟨a, u, first, second, rfl, start, finish⟩
    induction start with
    | done => exact finish
    | call answered rest hypothesis => exact .call answered (hypothesis finish)

/-- A call and what follows it. -/
theorem performs_ask_bind_iff {c : Call} {f : c.Answer → Routine α} {a : α} :
    Performs environment s (ask c >>= f) trace a t ↔
      ∃ answer u rest, trace = ⟨s, c, answer⟩ :: rest ∧ environment s c answer u ∧
        Performs environment u (f answer) rest a t :=
  performs_call_iff

/-- A sequence whose second part only turns the result of the first into its own. -/
theorem performs_bind_done_iff {r : Routine α} {f : α → β} {b : β} :
    Performs environment s (r >>= fun a => .done (f a)) trace b t ↔
      ∃ a, b = f a ∧ Performs environment s r trace a t := by
  rw [performs_bind_iff]
  constructor
  · rintro ⟨a, u, first, second, rfl, start, finish⟩
    obtain ⟨rfl, rfl, rfl⟩ := performs_done_iff.mp finish
    exact ⟨a, rfl, by rwa [List.append_nil]⟩
  · rintro ⟨a, rfl, performed⟩
    exact ⟨a, t, trace, [], (List.append_nil _).symm, performed, .done t _⟩

/-- What is performed in one environment is performed in every wider one. -/
theorem Performs.mono {wider : Environment σ} {r : Routine α} {a : α}
    (performed : Performs environment s r trace a t)
    (widen : ∀ {s c answer t}, environment s c answer t → wider s c answer t) :
    Performs wider s r trace a t := by
  induction performed with
  | done s a => exact .done s a
  | call answered rest hypothesis => exact .call (widen answered) hypothesis

theorem Performs.returned {r : Routine α} {a : α} {good : α → Prop} (returns : Returns good r)
    (performed : Performs environment s r trace a t) : good a := by
  induction performed with
  | done s a => exact returns
  | call answered rest hypothesis => exact hypothesis (returns _)

/-- Of two executions with a common beginning, the one that ends has the result of the other. -/
theorem Performs.eq_of_append {r : Routine α} {a b : α} {s' t' : σ}
    {first second check rest : List (Moment σ)}
    (one : Performs environment s r first a t) (other : Performs environment s' r check b t')
    (same : first ++ second = check ++ rest) : first = check ∧ a = b := by
  induction one generalizing s' check with
  | done s a =>
      obtain ⟨rfl, rfl, rfl⟩ := performs_done_iff.mp other
      exact ⟨rfl, rfl⟩
  | call answered performed hypothesis =>
      obtain ⟨answer, u, others, rfl, -, performed'⟩ := performs_call_iff.mp other
      simp only [List.cons_append, List.cons.injEq, Moment.mk.injEq, Exchange.mk.injEq, heq_eq_eq,
        true_and] at same
      obtain ⟨⟨rfl, rfl⟩, same⟩ := same
      obtain ⟨rfl, rfl⟩ := hypothesis performed' same
      exact ⟨rfl, rfl⟩

/-- A trace that goes from one state to another, whatever made its calls. -/
inductive Passes (environment : Environment σ) : σ → List (Moment σ) → σ → Prop where
  | refl (s : σ) : Passes environment s [] s
  | step {s u t : σ} {c : Call} {answer : c.Answer} {trace : List (Moment σ)}
      (answered : environment s c answer u) (rest : Passes environment u trace t) :
      Passes environment s (⟨s, c, answer⟩ :: trace) t

theorem Performs.passes {r : Routine α} {a : α} (performed : Performs environment s r trace a t) :
    Passes environment s trace t := by
  induction performed with
  | done s a => exact .refl s
  | call answered rest hypothesis => exact .step answered hypothesis

theorem passes_append_iff {first second : List (Moment σ)} :
    Passes environment s (first ++ second) t ↔
      ∃ u, Passes environment s first u ∧ Passes environment u second t := by
  induction first generalizing s with
  | nil =>
      constructor
      · intro passes
        exact ⟨s, .refl s, passes⟩
      · rintro ⟨u, ⟨⟩, passes⟩
        exact passes
  | cons moment first hypothesis =>
      constructor
      · rintro ⟨⟩
        rename_i answered rest
        obtain ⟨u, first, second⟩ := hypothesis.mp rest
        exact ⟨u, .step answered first, second⟩
      · rintro ⟨u, ⟨⟩, second⟩
        rename_i answered first
        exact .step answered (hypothesis.mpr ⟨u, first, second⟩)

/-! ## Executions that run out of rounds -/

/-- A routine can go from one state to another with a trace, and then it is out of rounds. -/
inductive Starves (environment : Environment σ) : σ → Routine α → List (Moment σ) → σ → Prop where
  | out (s : σ) : Starves environment s .starved [] s
  | call {s u t : σ} {c : Call} {next : c.Answer → Routine α} {answer : c.Answer}
      {trace : List (Moment σ)} (answered : environment s c answer u)
      (rest : Starves environment u (next answer) trace t) :
      Starves environment s (.call c next) (⟨s, c, answer⟩ :: trace) t

@[simp] theorem not_starves_done {a : α} : ¬ Starves environment s (.done a) trace t := by
  rintro ⟨⟩

theorem starves_call_iff {c : Call} {next : c.Answer → Routine α} :
    Starves environment s (.call c next) trace t ↔
      ∃ answer u rest, trace = ⟨s, c, answer⟩ :: rest ∧ environment s c answer u ∧
        Starves environment u (next answer) rest t := by
  constructor
  · rintro ⟨⟩
    exact ⟨_, _, _, rfl, ‹_›, ‹_›⟩
  · rintro ⟨answer, u, rest, rfl, answered, starved⟩
    exact .call answered starved

theorem Ends.not_starves {r : Routine α} (ends : Ends r) : ¬ Starves environment s r trace t := by
  intro starved
  induction starved with
  | out s => exact ends
  | call answered rest hypothesis => exact hypothesis (ends _)

/-- A sequence runs out of rounds in its first part or in its second one. -/
theorem starves_bind_iff {r : Routine α} {f : α → Routine β} :
    Starves environment s (r >>= f) trace t ↔ Starves environment s r trace t ∨
      ∃ a u first second, trace = first ++ second ∧ Performs environment s r first a u ∧
        Starves environment u (f a) second t := by
  constructor
  · intro starved
    induction r generalizing s trace with
    | done a => exact .inr ⟨a, s, [], trace, rfl, .done s a, starved⟩
    | call c next hypothesis =>
        obtain ⟨answer, u, rest, rfl, answered, starved⟩ := starves_call_iff.mp starved
        rcases hypothesis answer starved with starved | ⟨a, v, first, second, rfl, start, starved⟩
        · exact .inl (.call answered starved)
        · exact .inr ⟨a, v, _, second, rfl, .call answered start, starved⟩
    | starved =>
        cases starved
        exact .inl (.out _)
  · rintro (starved | ⟨a, u, first, second, rfl, start, starved⟩)
    · induction starved with
      | out => exact .out _
      | call answered rest hypothesis => exact .call answered hypothesis
    · induction start with
      | done => exact starved
      | call answered rest hypothesis => exact .call answered (hypothesis starved)

/-- A sequence whose first part ends runs out of rounds in its second part. -/
theorem Ends.starves_bind {r : Routine α} {f : α → Routine β} (ends : Ends r)
    (starved : Starves environment s (r >>= f) trace t) :
    ∃ a u first second, trace = first ++ second ∧ Performs environment s r first a u ∧
      Starves environment u (f a) second t :=
  (starves_bind_iff.mp starved).resolve_left ends.not_starves

/-! ## Handlers as environments -/

/-- The trace that a handler leads a routine through. -/
def runTrace (handle : Handler σ) : Routine α → σ → List (Moment σ)
  | .done _, _ => []
  | .call c next, s =>
    ⟨s, c, (handle c s).1⟩ :: runTrace handle (next (handle c s).1) (handle c s).2
  | .starved, _ => []

/-- Where an environment allows the answers of a handler, it allows the runs under it. -/
theorem performs_of_run {handle : Handler σ} {r : Routine α} {a : α}
    (allows : ∀ s c, environment s c (handle c s).1 (handle c s).2)
    (ran : r.run handle s = (some a, t)) :
    Performs environment s r (r.runTrace handle s) a t := by
  induction r generalizing s with
  | done b =>
      cases ran
      exact .done _ _
  | call c next hypothesis => exact .call (allows s c) (hypothesis _ ran)
  | starved => cases ran

theorem starves_of_run {handle : Handler σ} {r : Routine α}
    (allows : ∀ s c, environment s c (handle c s).1 (handle c s).2)
    (ran : r.run handle s = (none, t)) :
    Starves environment s r (r.runTrace handle s) t := by
  induction r generalizing s with
  | done b => cases ran
  | call c next hypothesis => exact .call (allows s c) (hypothesis _ ran)
  | starved =>
      cases ran
      exact .out _

end Routine

end TransactionKit
