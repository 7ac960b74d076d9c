import TransactionKit.Proofs.Lock.Tables

/-!
How long the acquisition of a key can go on. After a refused attempt there is a pause, which brings
the clock nearer to the deadline; only a removal is followed by another attempt at once. So each
round that is used up stands for a removal or for a pause before the deadline, whatever the calls
are answered (`rounds_le_of_starves_lock`).
-/

namespace TransactionKit

open Routine

namespace Backend

/-- The least time from a refused attempt to the next one. -/
def pace (backend : Backend) : Nat :=
  max 1 backend.config.pollInterval

/-- The greatest number of pauses that begin within a time. -/
def pauses (backend : Backend) (time : Nat) : Nat :=
  (time + (backend.pace - 1)) / backend.pace

theorem pace_pos (backend : Backend) : 0 < backend.pace := by
  unfold pace
  omega

theorem pauses_mono (backend : Backend) {time more : Nat} (le : time ≤ more) :
    backend.pauses time ≤ backend.pauses more :=
  Nat.div_le_div_right (Nat.add_le_add_right le _)

/-- A pause leaves room for one pause less. -/
theorem pauses_lt (backend : Backend) {time less : Nat} (positive : 0 < time)
    (le : less ≤ time - backend.pace) : backend.pauses less < backend.pauses time := by
  have pace := backend.pace_pos
  unfold pauses
  rcases Nat.lt_or_ge time backend.pace with short | long
  · have zero : (less + (backend.pace - 1)) / backend.pace = 0 := by
      apply Nat.div_eq_of_lt
      omega
    rw [zero]
    apply Nat.div_pos _ pace
    omega
  · calc (less + (backend.pace - 1)) / backend.pace
        < (less + (backend.pace - 1)) / backend.pace + 1 := Nat.lt_succ_self _
      _ = (less + (backend.pace - 1) + backend.pace) / backend.pace :=
        (Nat.add_div_right _ pace).symm
      _ ≤ (time + (backend.pace - 1)) / backend.pace := by
        apply Nat.div_le_div_right
        omega

end Backend

/-! ## What does not run out of rounds -/

namespace Deadline

theorem ends_expired (deadline : Deadline) : deadline.expired.Ends := by
  unfold expired
  cases deadline.moment? with
  | some moment => exact fun _ => trivial
  | none => trivial

theorem ends_remaining (deadline : Deadline) : deadline.remaining.Ends := by
  unfold remaining
  cases deadline.moment? with
  | some moment => exact fun _ => trivial
  | none => trivial

theorem ends_pause (deadline : Deadline) (nanos : Nat) : (deadline.pause nanos).Ends :=
  (ends_remaining deadline).bind fun _ _ => trivial

end Deadline

namespace Backend

theorem ends_evictStale (backend : Backend) (key : LockKey) : (backend.evictStale key).Ends := by
  unfold evictStale
  apply Ends.ask_bind
  intro answer
  match answer with
  | .error e | .ok none => trivial
  | .ok (some record) =>
    apply Ends.ask_bind
    intro now
    split
    · intro removed
      cases removed with
      | error e => trivial
      | ok removed => trivial
    · trivial

theorem ends_attempt (backend : Backend) (key : LockKey) (owner : Owner) :
    (backend.attempt key owner).Ends := by
  intro now answer
  match answer with
  | .error e | .ok true => trivial
  | .ok false =>
    apply (ends_evictStale backend key).bind
    intro evicted
    match evicted with
    | .error e | .ok none | .ok (some record) => trivial

end Backend

/-- Whether a record was removed. -/
def Exchange.removed : Exchange → Bool
  | ⟨.remove .., .ok removed⟩ => removed
  | _ => false

namespace Tables

/-- The clock does not go back, and it goes on while somebody sleeps. Every other call may be
answered in any way. -/
def timely : Environment Tables
  | s, .now, answer, t => answer = s.time ∧ s.time ≤ t.time
  | s, .sleep nanos, _, t => s.time + max 1 nanos ≤ t.time
  | s, _, _, t => s.time ≤ t.time

/-- The number of records that were removed. -/
def removals (trace : List (Moment Tables)) : Nat :=
  trace.countP fun moment => moment.exchange.removed

/-- The time left until a moment. -/
def left (s : Tables) (moment : Int) : Nat :=
  (moment - s.time).toNat

variable {α : Type} {s t u : Tables} {trace first second : List (Moment Tables)}

theorem removals_append :
    removals (first ++ second) = removals first + removals second :=
  List.countP_append

theorem time_le {r : Routine α} {a : α} (performed : Performs timely s r trace a t) :
    s.time ≤ t.time := by
  induction performed with
  | done s a => exact Int.le_refl s.time
  | @call s u t c next answer trace a answered rest ih =>
    apply Int.le_trans _ ih
    cases c with
    | now => exact answered.2
    | sleep nanos =>
      have later : s.time + max 1 nanos ≤ u.time := answered
      omega
    | _ => exact answered

theorem left_le (moment : Int) (le : s.time ≤ t.time) : t.left moment ≤ s.left moment := by
  unfold left
  omega

/-! ## Waiting -/

section Waiting

variable {moment : Int}

theorem performs_expired {expired : Bool}
    (performed : Performs timely s (Deadline.expired ⟨some moment⟩) trace expired t) :
    expired = decide (moment ≤ s.time) := by
  obtain ⟨now, u, rest, rfl, ⟨rfl, -⟩, performed⟩ := performs_ask_bind_iff.mp performed
  exact (performs_done_iff.mp performed).2.1

theorem performs_remaining {timeout : Timeout}
    (performed : Performs timely s (Deadline.remaining ⟨some moment⟩) trace timeout t) :
    timeout = .after (s.left moment) := by
  obtain ⟨now, u, rest, rfl, ⟨rfl, -⟩, performed⟩ := performs_ask_bind_iff.mp performed
  exact (performs_done_iff.mp performed).2.1

/-- A pause takes its time, or the time that is left. -/
theorem performs_pause {nanos : Nat}
    (performed : Performs timely s (Deadline.pause ⟨some moment⟩ nanos) trace () t) :
    t.left moment ≤ s.left moment - max 1 nanos := by
  obtain ⟨timeout, u, first, second, rfl, reading, performed⟩ := performs_bind_iff.mp performed
  have looked := time_le reading
  obtain rfl := performs_remaining reading
  obtain ⟨_, v, rest, rfl, sleeping, performed⟩ := performs_call_iff.mp performed
  obtain ⟨rfl, rfl, rfl⟩ := performs_done_iff.mp performed
  have slept : u.time + (max 1 (min nanos (s.left moment)) : Nat) ≤ t.time := sleeping
  unfold left at slept ⊢
  omega

end Waiting

/-! ## Attempts -/

section Acquisition

variable {backend : Backend} {key : LockKey} {owner : Owner} {moment : Int} {rounds : Nat}

/-- An eviction that reports a record has removed one. -/
theorem removals_of_evictStale {environment : Environment Tables} {record : Record}
    (performed : Performs environment s (backend.evictStale key) trace (.ok (some record)) t) :
    0 < removals trace := by
  obtain ⟨found, u, rest, rfl, -, looking, removing⟩ := Backend.performs_evictStale_some performed
  apply List.countP_pos_iff.mpr
  exact ⟨_, .tail _ (.tail _ (.head _)), rfl⟩

theorem removals_of_attempt {environment : Environment Tables}
    (performed : Performs environment s (backend.attempt key owner) trace .evicted t) :
    0 < removals trace := by
  obtain ⟨now, u, created, v, rest, rfl, -, -, goes⟩ := Backend.goes_attempt performed
  cases goes with
  | evicted evicting =>
    have removed := removals_of_evictStale evicting
    simp only [removals, List.countP_cons] at removed ⊢
    omega

/-- After a refusal rounds can only run out when there was a pause, and that leaves room for fewer
pauses. -/
theorem starves_retry {result : α} {again : Routine α}
    (starved : Starves timely s
      (Deadline.expired ⟨some moment⟩ >>= fun expired =>
        if expired then .done result
        else Deadline.pause ⟨some moment⟩ backend.config.pollInterval >>= fun _ => again) trace t) :
    ∃ u first second, trace = first ++ second ∧ Starves timely u again second t ∧
      backend.pauses (u.left moment) < backend.pauses (s.left moment) := by
  obtain ⟨expired, u, first, second, rfl, looking, starved⟩ := (Deadline.ends_expired _).starves_bind starved
  have early := performs_expired looking
  cases expired with
  | true => exact absurd starved not_starves_done
  | false =>
    obtain ⟨_, v, during, rest, rfl, pausing, starved⟩ := (Deadline.ends_pause _ _).starves_bind starved
    refine ⟨v, first ++ during, rest, (List.append_assoc ..).symm, starved, ?_⟩
    have looked := left_le moment (time_le looking)
    have paused := performs_pause pausing
    apply backend.pauses_lt
    · unfold left
      simp at early
      omega
    · unfold Backend.pace
      omega

theorem rounds_le_of_starves_poll
    (starved : Starves timely s (backend.poll key owner ⟨some moment⟩ rounds) trace t) :
    rounds ≤ removals trace + backend.pauses (s.left moment) := by
  induction rounds generalizing s trace with
  | zero => exact Nat.zero_le _
  | succ rounds ih =>
    obtain ⟨attempt, u, first, second, rfl, attempting, starved⟩ :=
      (backend.ends_attempt key owner).starves_bind starved
    have shorter := backend.pauses_mono (left_le moment (time_le attempting))
    rw [removals_append]
    cases attempt with
    | acquired => exact absurd starved not_starves_done
    | evicted =>
      have removed := removals_of_attempt attempting
      have later := ih starved
      omega
    | refused =>
      obtain ⟨v, during, rest, rfl, starved, fewer⟩ := starves_retry starved
      have later := ih starved
      rw [removals_append]
      omega

/-- The acquisition of a key ends within as many rounds as there are records that it removes and
pauses that fit in the time it has. -/
theorem rounds_le_of_starves_lock {nanos : Nat}
    (starved : Starves timely s (backend.lock rounds key owner (.after nanos)) trace t) :
    rounds ≤ removals trace + backend.pauses nanos := by
  obtain ⟨granted, u, rest, rfl, -, starved⟩ := starves_call_iff.mp starved
  cases granted with
  | error e => exact absurd starved not_starves_done
  | ok _ =>
    obtain ⟨now, v, rest, rfl, ⟨rfl, looked⟩, starved⟩ := starves_call_iff.mp starved
    have polled := rounds_le_of_starves_poll starved
    have fewer : backend.pauses (v.left (u.time + nanos)) ≤ backend.pauses nanos := by
      apply backend.pauses_mono
      unfold left
      omega
    simp only [removals, List.countP_cons] at polled ⊢
    omega

end Acquisition

end Tables

end TransactionKit
