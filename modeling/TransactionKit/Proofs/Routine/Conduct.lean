import TransactionKit.Routine

/-!
What a routine may do. The conduct of a routine says which calls it may make after which exchanges,
and with which results it may finish after them, whatever the answers to its calls are. Conduct is
a property of the tree alone, so it holds in every world and under every interleaving with other
routines. It is established piece by piece: `Conducts.bind` puts the parts of a routine together.
-/

namespace TransactionKit

/-- A call with the answer it got. -/
structure Exchange where
  call : Call
  answer : call.Answer

namespace Routine

variable {α β : Type}
variable {permits : List Exchange → Call → Prop}

/-- Whatever is answered, every call of the routine is permitted after the exchanges before it and
every result is one that those exchanges yield. Exchanges are listed with the latest first. A
routine that is out of rounds does nothing more. -/
def Conducts (permits : List Exchange → Call → Prop) (yields : List Exchange → α → Prop) :
    List Exchange → Routine α → Prop
  | past, done a => yields past a
  | past, call c next =>
    permits past c ∧ ∀ answer, Conducts permits yields (⟨c, answer⟩ :: past) (next answer)
  | _, starved => True

@[simp] theorem conducts_done {yields : List Exchange → α → Prop} {past : List Exchange} {a : α} :
    Conducts permits yields past (done a) ↔ yields past a := Iff.rfl

@[simp] theorem conducts_call {yields : List Exchange → α → Prop} {past : List Exchange} {c : Call}
    {next : c.Answer → Routine α} :
    Conducts permits yields past (call c next) ↔
      permits past c ∧ ∀ answer, Conducts permits yields (⟨c, answer⟩ :: past) (next answer) :=
  Iff.rfl

@[simp] theorem conducts_starved {yields : List Exchange → α → Prop} {past : List Exchange} :
    Conducts permits yields past (starved : Routine α) := trivial

/-- In a sequence the second part goes on from whatever the first part yields. -/
theorem Conducts.bind {between : List Exchange → α → Prop} {yields : List Exchange → β → Prop}
    {past : List Exchange} {r : Routine α} {f : α → Routine β}
    (first : Conducts permits between past r)
    (second : ∀ past a, between past a → Conducts permits yields past (f a)) :
    Conducts permits yields past (r >>= f) := by
  induction r generalizing past with
  | done a => exact second past a first
  | call c next hypothesis =>
      obtain ⟨permitted, afterwards⟩ := first
      exact ⟨permitted, fun answer => hypothesis answer (afterwards answer)⟩
  | starved => trivial

/-- A call and what follows it. -/
theorem Conducts.ask_bind {yields : List Exchange → β → Prop} {past : List Exchange} {c : Call}
    {f : c.Answer → Routine β} (permitted : permits past c)
    (afterwards : ∀ answer, Conducts permits yields (⟨c, answer⟩ :: past) (f answer)) :
    Conducts permits yields past (ask c >>= f) :=
  ⟨permitted, afterwards⟩

/-- Conduct with less to show about the results. -/
theorem Conducts.mono {yields weaker : List Exchange → α → Prop} {past : List Exchange}
    {r : Routine α} (conduct : Conducts permits yields past r)
    (weaken : ∀ past a, yields past a → weaker past a) : Conducts permits weaker past r := by
  induction r generalizing past with
  | done a => exact weaken past a conduct
  | call c next hypothesis =>
      obtain ⟨permitted, afterwards⟩ := conduct
      exact ⟨permitted, fun answer => hypothesis answer (afterwards answer)⟩
  | starved => trivial

/-- Where everything is permitted every routine keeps to it. -/
theorem conducts_free (past : List Exchange) (r : Routine α) :
    Conducts (fun _ _ => True) (fun _ _ => True) past r := by
  induction r generalizing past with
  | done a => trivial
  | call c next hypothesis => exact ⟨trivial, fun answer => hypothesis answer _⟩
  | starved => trivial

/-! ## What is left of a routine -/

/-- What is left of a routine after exchanges, the latest of them first. -/
inductive Leads : Routine α → List Exchange → Routine α → Prop where
  | refl (r : Routine α) : Leads r [] r
  | answer {r : Routine α} {past : List Exchange} {c : Call} {next : c.Answer → Routine α}
      (before : Leads r past (.call c next)) (answer : c.Answer) :
      Leads r (⟨c, answer⟩ :: past) (next answer)

theorem Leads.trans {r s t : Routine α} {prior during : List Exchange} (first : Leads r prior s)
    (second : Leads s during t) : Leads r (during ++ prior) t := by
  induction second with
  | refl => exact first
  | answer before answer hypothesis => exact .answer hypothesis answer

/-- The first part of a sequence leads on in the sequence. -/
theorem Leads.bind {r rest : Routine α} {past : List Exchange} (leads : Leads r past rest)
    (f : α → Routine β) : Leads (r >>= f) past (rest >>= f) := by
  induction leads with
  | refl => exact .refl _
  | answer before answer hypothesis => exact .answer hypothesis answer

/-- The end of the first part of a sequence is the beginning of the second. -/
theorem Leads.after {whole : Routine β} {r : Routine α} {f : α → Routine β}
    {prior during : List Exchange} {a : α} (here : Leads whole prior (r >>= f))
    (ended : Leads r during (.done a)) : Leads whole (during ++ prior) (f a) :=
  here.trans (ended.bind f)

/-- A run leads a routine to its result. -/
theorem exists_leads_of_run {σ : Type} {handle : Handler σ} {r : Routine α} {a : α} {s t : σ}
    (ran : r.run handle s = (some a, t)) : ∃ past, Leads r past (.done a) := by
  induction r generalizing s with
  | done b =>
      cases ran
      exact ⟨[], .refl _⟩
  | call c next hypothesis =>
      obtain ⟨past, later⟩ := hypothesis _ ran
      exact ⟨_, (Leads.answer (.refl _) (handle c s).1).trans later⟩
  | starved => cases ran

/-- After exchanges a routine is within a part of it: it has come to the part, with something to
follow, and some rest of the part is left. -/
def Within (whole : Routine β) (part : Routine α) (past : List Exchange)
    (rest : Routine α) : Prop :=
  ∃ prior during, ∃ f : α → Routine β,
    past = during ++ prior ∧ Leads whole prior (part >>= f) ∧ Leads part during rest

/-- What is left of a routine keeps to its conduct. -/
theorem Conducts.leads {yields : List Exchange → α → Prop} {past during : List Exchange}
    {r rest : Routine α} (conduct : Conducts permits yields past r) (leads : Leads r during rest) :
    Conducts permits yields (during ++ past) rest := by
  induction leads with
  | refl => exact conduct
  | answer before answer hypothesis => exact hypothesis.2 answer

/-- In a sequence the second part goes on from the end of the first. -/
theorem Conducts.bind_at {between : List Exchange → α → Prop} {yields : List Exchange → β → Prop}
    {past : List Exchange} {r : Routine α} {f : α → Routine β}
    (first : Conducts permits between past r)
    (second : ∀ during a, Leads r during (.done a) → between (during ++ past) a →
      Conducts permits yields (during ++ past) (f a)) :
    Conducts permits yields past (r >>= f) := by
  induction r generalizing past with
  | done a => exact second [] a (.refl _) first
  | call c next hypothesis =>
      refine ⟨first.1, fun answer => hypothesis answer (first.2 answer) ?_⟩
      intro during a ended fine
      have start : Leads (.call c next) [⟨c, answer⟩] (next answer) := .answer (.refl _) answer
      have whole := second (during ++ [⟨c, answer⟩]) a (start.trans ended)
      simp only [List.append_assoc, List.singleton_append] at whole
      exact whole fine
  | starved => trivial

/-- Conduct with less that is permitted. -/
theorem Conducts.permit {freely : List Exchange → Call → Prop} {yields : List Exchange → α → Prop}
    {past : List Exchange} {r : Routine α} (conduct : Conducts permits yields past r)
    (allow : ∀ past c, permits past c → freely past c) : Conducts freely yields past r := by
  induction r generalizing past with
  | done a => exact conduct
  | call c next hypothesis =>
      exact ⟨allow past c conduct.1, fun answer => hypothesis answer (conduct.2 answer)⟩
  | starved => trivial

/-! ## Calls of one sort -/

/-- Whatever is answered, every call of the routine is of one sort. -/
def Only (sort : Call → Prop) : Routine α → Prop
  | done _ => True
  | call c next => sort c ∧ ∀ answer, Only sort (next answer)
  | starved => True

variable {sort : Call → Prop}

theorem Only.bind {r : Routine α} {f : α → Routine β} (first : Only sort r)
    (second : ∀ a, Only sort (f a)) : Only sort (r >>= f) := by
  induction r with
  | done a => exact second a
  | call c next hypothesis => exact ⟨first.1, fun answer => hypothesis answer (first.2 answer)⟩
  | starved => trivial

/-- A routine that conducts itself so that its calls are of one sort makes only such calls. -/
theorem Conducts.only {yields : List Exchange → α → Prop} {past : List Exchange} {r : Routine α}
    (conduct : Conducts permits yields past r) (permitted : ∀ past c, permits past c → sort c) :
    Only sort r := by
  induction r generalizing past with
  | done a => trivial
  | call c next hypothesis =>
      exact ⟨permitted past c conduct.1, fun answer => hypothesis answer (conduct.2 answer)⟩
  | starved => trivial

/-- Calls of one sort are a conduct. -/
theorem Only.conducts {past : List Exchange} {r : Routine α} (only : Only sort r) :
    Conducts (fun _ c => sort c) (fun _ _ => True) past r := by
  induction r generalizing past with
  | done a => trivial
  | call c next hypothesis => exact ⟨only.1, fun answer => hypothesis answer (only.2 answer)⟩
  | starved => trivial

/-! ## Results -/

/-- Whatever is answered, every result of the routine is good. -/
def Returns (good : α → Prop) : Routine α → Prop
  | done a => good a
  | call _ next => ∀ answer, Returns good (next answer)
  | starved => True

variable {good fair : α → Prop}

theorem Returns.bind {better : β → Prop} {r : Routine α} {f : α → Routine β}
    (first : Returns good r) (second : ∀ a, good a → Returns better (f a)) :
    Returns better (r >>= f) := by
  induction r with
  | done a => exact second a first
  | call c next hypothesis => exact fun answer => hypothesis answer (first answer)
  | starved => trivial

theorem Returns.mono {r : Routine α} (returns : Returns good r) (weaken : ∀ a, good a → fair a) :
    Returns fair r := by
  induction r with
  | done a => exact weaken a returns
  | call c next hypothesis => exact fun answer => hypothesis answer (returns answer)
  | starved => trivial

/-- What is left of a routine has good results only, and if it is finished, such a result. -/
theorem Returns.leads {r rest : Routine α} {past : List Exchange} (returns : Returns good r)
    (leads : Leads r past rest) : Returns good rest := by
  induction leads with
  | refl => exact returns
  | answer before answer hypothesis => exact hypothesis answer

/-- Conduct and results together. -/
theorem Conducts.returns {yields : List Exchange → α → Prop} {past : List Exchange} {r : Routine α}
    (conduct : Conducts permits yields past r) (returns : Returns good r) :
    Conducts permits (fun past a => yields past a ∧ good a) past r := by
  induction r generalizing past with
  | done a => exact ⟨conduct, returns⟩
  | call c next hypothesis =>
      exact ⟨conduct.1, fun answer => hypothesis answer (conduct.2 answer) (returns answer)⟩
  | starved => trivial

/-- What follows a routine may be replaced by what is the same after every result there can be. -/
theorem Returns.bind_congr {r : Routine α} {f g : α → Routine β} (returns : Returns good r)
    (same : ∀ a, good a → f a = g a) : (r >>= f) = (r >>= g) := by
  induction r with
  | done a => exact same a returns
  | call c next hypothesis =>
      exact congrArg (call c) (funext fun answer => hypothesis answer (returns answer))
  | starved => rfl

theorem returns_free (r : Routine α) : Returns (fun _ => True) r := by
  induction r with
  | done a => trivial
  | call c next hypothesis => exact hypothesis
  | starved => trivial

/-! ## Ends -/

/-- Whatever is answered, the routine does not run out of rounds. -/
def Ends : Routine α → Prop
  | done _ => True
  | call _ next => ∀ answer, Ends (next answer)
  | starved => False

theorem Ends.bind {r : Routine α} {f : α → Routine β} (first : Ends r) (second : ∀ a, Ends (f a)) :
    Ends (r >>= f) := by
  induction r with
  | done a => exact second a
  | call c next hypothesis => exact fun answer => hypothesis answer (first answer)
  | starved => exact first

/-- A call and what follows it. -/
theorem Ends.ask_bind {c : Call} {f : c.Answer → Routine β}
    (afterwards : ∀ answer, Ends (f answer)) : Ends (ask c >>= f) :=
  afterwards

theorem Ends.run {σ : Type} {r : Routine α} (ends : Ends r) (handle : Handler σ) (s : σ) :
    ∃ a t, r.run handle s = (some a, t) := by
  induction r generalizing s with
  | done a => exact ⟨a, s, rfl⟩
  | call c next hypothesis => exact hypothesis _ (ends _) _
  | starved => exact ends.elim

/-! ## Two worlds -/

/-- If one world answers as another does, and what it becomes is the image of what the other
becomes, at every call that a routine may make, then so it is over the whole routine. What holds of
the exchanges and the state may be used at each call and must be kept by it. -/
theorem Conducts.run_image {σ τ : Type} {handle : Handler σ} {other : Handler τ} {image : σ → τ}
    {holds : List Exchange → σ → Prop}
    (step : ∀ past c s, holds past s → permits past c →
      other c (image s) = ((handle c s).1, image (handle c s).2) ∧
        holds (⟨c, (handle c s).1⟩ :: past) (handle c s).2)
    {yields : List Exchange → α → Prop} {past : List Exchange} {r : Routine α} {s : σ}
    (conduct : Conducts permits yields past r) (start : holds past s) :
    r.run other (image s) = ((r.run handle s).1, image (r.run handle s).2) ∧
      ∃ later, holds later (r.run handle s).2 := by
  induction r generalizing past s with
  | done a => exact ⟨rfl, past, start⟩
  | starved => exact ⟨rfl, past, start⟩
  | call c next hypothesis =>
    obtain ⟨permitted, afterwards⟩ := conduct
    obtain ⟨same, kept⟩ := step past c s start permitted
    rw [run_call, run_call, same]
    exact hypothesis _ (afterwards _) kept

end Routine

end TransactionKit
