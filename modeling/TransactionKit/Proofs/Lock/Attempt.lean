import TransactionKit.Lock.Acquisition
import TransactionKit.Proofs.Routine.Execution

/-!
The courses of an eviction and of an attempt, whatever their calls are answered. An eviction is
decided by the record that it reads and by its age (`EvictionGoes`), an attempt by the answer to its
insertion (`AttemptGoes`).
-/

namespace TransactionKit

namespace Backend

open Routine

section Courses

variable {σ : Type} (environment : Environment σ) (backend : Backend) (key : LockKey)

/-- How an eviction goes on when it is answered what is under its key. -/
inductive EvictionGoes : Except Error (Option Record) → σ → List (Moment σ) →
    Except Error (Option Record) → σ → Prop where
  | unread (e : Error) (s : σ) : EvictionGoes (.error e) s [] (.error e) s
  | vacant (s : σ) : EvictionGoes (.ok none) s [] (.ok none) s
  | fresh {record : Record} {s t : σ} {now : Int} (looking : environment s .now now t)
      (fresh : record.isStale backend.config.maxLockAge now = false) :
      EvictionGoes (.ok (some record)) s [⟨s, .now, now⟩] (.ok none) t
  | stale {record : Record} {s u t : σ} {now : Int} {removed : Except Error Bool}
      (looking : environment s .now now u)
      (stale : record.isStale backend.config.maxLockAge now = true)
      (removing : environment u (.remove backend key (some record.owner)) removed t) :
      EvictionGoes (.ok (some record)) s
        [⟨s, .now, now⟩, ⟨u, .remove backend key (some record.owner), removed⟩]
        (removed.map fun removed => if removed then some record else none) t

/-- How an attempt goes on when its insertion is answered. -/
inductive AttemptGoes : Except Error Bool → σ → List (Moment σ) → Attempt → σ → Prop where
  | inserted (s : σ) : AttemptGoes (.ok true) s [] .acquired s
  | failed (e : Error) (s : σ) : AttemptGoes (.error e) s [] .refused s
  | evicted {record : Record} {s t : σ} {trace : List (Moment σ)}
      (evicting : Performs environment s (backend.evictStale key) trace (.ok (some record)) t) :
      AttemptGoes (.ok false) s trace .evicted t
  | kept {answer : Except Error (Option Record)} {s t : σ} {trace : List (Moment σ)}
      (evicting : Performs environment s (backend.evictStale key) trace answer t) :
      AttemptGoes (.ok false) s trace .refused t

end Courses

variable {σ : Type} {environment : Environment σ} {backend : Backend} {key : LockKey} {s t : σ}
  {trace : List (Moment σ)}

theorem goes_evictStale {answer : Except Error (Option Record)}
    (performed : Performs environment s (backend.evictStale key) trace answer t) :
    ∃ found u rest, trace = ⟨s, .read backend key, found⟩ :: rest ∧
      environment s (.read backend key) found u ∧
      EvictionGoes environment backend key found u rest answer t := by
  obtain ⟨found, u, rest, rfl, reading, performed⟩ := performs_ask_bind_iff.mp performed
  refine ⟨found, u, rest, rfl, reading, ?_⟩
  match found with
  | .error e =>
    obtain ⟨rfl, rfl, rfl⟩ := performs_done_iff.mp performed
    exact .unread e _
  | .ok none =>
    obtain ⟨rfl, rfl, rfl⟩ := performs_done_iff.mp performed
    exact .vacant _
  | .ok (some record) =>
    obtain ⟨now, v, rest, rfl, looking, performed⟩ := performs_ask_bind_iff.mp performed
    split at performed
    · rename_i stale
      obtain ⟨removed, w, rest, rfl, removing, performed⟩ := performs_ask_bind_iff.mp performed
      cases removed with
      | error e =>
        obtain ⟨rfl, rfl, rfl⟩ := performs_done_iff.mp performed
        exact .stale looking stale removing
      | ok removed =>
        obtain ⟨rfl, rfl, rfl⟩ := performs_done_iff.mp performed
        exact .stale looking stale removing
    · rename_i fresh
      obtain ⟨rfl, rfl, rfl⟩ := performs_done_iff.mp performed
      exact .fresh looking (eq_false_of_ne_true fresh)

/-- An eviction that reports a record has read it and then removed it. -/
theorem performs_evictStale_some {record : Record}
    (performed : Performs environment s (backend.evictStale key) trace (.ok (some record)) t) :
    ∃ u v now,
      trace = [⟨s, .read backend key, .ok (some record)⟩, ⟨u, .now, now⟩,
        ⟨v, .remove backend key (some record.owner), .ok true⟩] ∧
      environment s (.read backend key) (.ok (some record)) u ∧ environment u .now now v ∧
      environment v (.remove backend key (some record.owner)) (.ok true) t := by
  obtain ⟨found, u, rest, rfl, reading, goes⟩ := goes_evictStale performed
  generalize reported : Except.ok (some record) = answer at goes
  cases goes with
  | unread | vacant | fresh => cases reported
  | @stale seen u v t now removed looking stale removing =>
    match removed with
    | .error e | .ok false => cases reported
    | .ok true =>
      cases reported
      exact ⟨u, v, now, rfl, reading, looking, removing⟩

theorem goes_attempt {owner : Owner} {attempt : Attempt}
    (performed : Performs environment s (backend.attempt key owner) trace attempt t) :
    ∃ now u created v rest,
      trace = ⟨s, .now, now⟩ :: ⟨u, .create backend (.of key owner now), created⟩ :: rest ∧
      environment s .now now u ∧ environment u (.create backend (.of key owner now)) created v ∧
      AttemptGoes environment backend key created v rest attempt t := by
  obtain ⟨now, u, rest, rfl, looking, performed⟩ := performs_ask_bind_iff.mp performed
  obtain ⟨created, v, rest, rfl, creating, performed⟩ := performs_ask_bind_iff.mp performed
  refine ⟨now, u, created, v, rest, rfl, looking, creating, ?_⟩
  match created with
  | .error e =>
    obtain ⟨rfl, rfl, rfl⟩ := performs_done_iff.mp performed
    exact .failed e _
  | .ok true =>
    obtain ⟨rfl, rfl, rfl⟩ := performs_done_iff.mp performed
    exact .inserted _
  | .ok false =>
    obtain ⟨answer, w, first, second, rfl, evicting, performed⟩ := performs_bind_iff.mp performed
    match answer with
    | .error e | .ok none =>
      obtain ⟨rfl, rfl, rfl⟩ := performs_done_iff.mp performed
      rw [List.append_nil]
      exact .kept evicting
    | .ok (some record) =>
      obtain ⟨rfl, rfl, rfl⟩ := performs_done_iff.mp performed
      rw [List.append_nil]
      exact .evicted evicting

end Backend

end TransactionKit
