import TransactionKit.Proofs.Routine.Execution

/-!
Total correctness of routines. A routine ensures something in an environment if, whatever it is
answered there, it comes to an end before its rounds run out, and what has happened by then is good
(`Ensures`). That is to say that it cannot starve and that all its executions are good
(`ensures_iff`). It is established piece by piece, as executions are (`Ensures.bind`).
-/

namespace TransactionKit

namespace Routine

variable {α β σ : Type}

/-- Whatever an environment answers, a routine comes to an end before its rounds run out, and its
trace, its result and the last state are good. -/
def Ensures (environment : Environment σ) :
    (good : List (Moment σ) → α → σ → Prop) → σ → Routine α → Prop
  | good, s, done a => good [] a s
  | good, s, call c next => ∀ answer t, environment s c answer t →
    Ensures environment (fun trace => good (⟨s, c, answer⟩ :: trace)) t (next answer)
  | _, _, starved => False

variable {environment : Environment σ} {good better : List (Moment σ) → α → σ → Prop} {s : σ}

/-- The executions of a routine that ensures something are good, and it does not starve. -/
theorem ensures_iff {r : Routine α} :
    Ensures environment good s r ↔ (∀ trace t, ¬ Starves environment s r trace t) ∧
      ∀ trace a t, Performs environment s r trace a t → good trace a t := by
  induction r generalizing s good with
  | done a =>
    constructor
    · intro ensures
      refine ⟨fun _ _ => not_starves_done, fun trace b t performed => ?_⟩
      obtain ⟨rfl, rfl, rfl⟩ := performs_done_iff.mp performed
      exact ensures
    · exact fun ensures => ensures.2 [] a s (.done s a)
  | call c next ih =>
    simp only [Ensures, ih]
    constructor
    · intro ensures
      constructor
      · intro trace t starved
        obtain ⟨answer, u, rest, rfl, answered, starved⟩ := starves_call_iff.mp starved
        exact (ensures answer u answered).1 rest t starved
      · intro trace a t performed
        obtain ⟨answer, u, rest, rfl, answered, performed⟩ := performs_call_iff.mp performed
        exact (ensures answer u answered).2 rest a t performed
    · rintro ⟨fed, all⟩ answer u answered
      exact ⟨fun trace t starved => fed _ t (.call answered starved),
        fun trace a t performed => all _ a t (.call answered performed)⟩
  | starved =>
    simp only [Ensures, false_iff]
    exact fun ensures => ensures.1 [] s (.out s)

theorem Ends.ensures {r : Routine α} (ends : r.Ends)
    (all : ∀ trace a t, Performs environment s r trace a t → good trace a t) :
    Ensures environment good s r :=
  ensures_iff.mpr ⟨fun _ _ => ends.not_starves, all⟩

/-- What is known of the executions may be used to weaken what is ensured. -/
theorem Ensures.mono {r : Routine α} (ensures : Ensures environment good s r)
    (weaken : ∀ trace a t, Performs environment s r trace a t → good trace a t → better trace a t) :
    Ensures environment better s r := by
  obtain ⟨fed, all⟩ := ensures_iff.mp ensures
  exact ensures_iff.mpr ⟨fed, fun trace a t performed =>
    weaken trace a t performed (all trace a t performed)⟩

/-- An environment with fewer answers ensures no less. -/
theorem Ensures.restrict {narrower : Environment σ} {r : Routine α}
    (ensures : Ensures environment good s r)
    (narrow : ∀ {s c answer t}, narrower s c answer t → environment s c answer t) :
    Ensures narrower good s r := by
  induction r generalizing s good with
  | done a => exact ensures
  | call c next ih => exact fun answer t answered => ih answer (ensures answer t (narrow answered))
  | starved => exact ensures

/-- In a sequence the second part goes on from whatever the first part ensures. -/
theorem Ensures.bind {r : Routine α} {f : α → Routine β} {best : List (Moment σ) → β → σ → Prop}
    (first : Ensures environment good s r)
    (second : ∀ trace a t, Performs environment s r trace a t → good trace a t →
      Ensures environment (fun later => best (trace ++ later)) t (f a)) :
    Ensures environment best s (r >>= f) := by
  induction r generalizing s good best with
  | done a => exact second [] a s (.done s a) first
  | call c next ih =>
    exact fun answer t answered => ih answer (first answer t answered) fun trace a u performed =>
      second _ a u (.call answered performed)
  | starved => exact first.elim

/-- Under a handler whose answers the environment allows, a routine has a good run. -/
theorem Ensures.run {handle : Handler σ} {r : Routine α} (ensures : Ensures environment good s r)
    (allows : ∀ s c, environment s c (handle c s).1 (handle c s).2) :
    ∃ a t, r.run handle s = (some a, t) ∧ good (r.runTrace handle s) a t := by
  obtain ⟨fed, all⟩ := ensures_iff.mp ensures
  cases ran : r.run handle s with
  | mk result t =>
    cases result with
    | none => exact absurd (starves_of_run allows ran) (fed _ t)
    | some a => exact ⟨a, t, rfl, all _ a t (performs_of_run allows ran)⟩

end Routine

end TransactionKit
