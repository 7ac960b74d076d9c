import Mathlib.Algebra.Order.Floor.Div
import TransactionKit.Proofs.Lock.Interference
import TransactionKit.Proofs.Lock.Patience
import TransactionKit.Proofs.Routine.Assurance

/-!
How soon the acquisition of a key ends where nobody else takes the key. Others may do whatever they
like but insert records under it, accesses may fail, and the clock goes on at least as long as
somebody sleeps (`uncontended`). Then the record of the key can only be removed once, and every
other attempt that fails is followed by a pause, so there are at most two attempts more than pauses
that fit into the timeout; the acquisition fails only when that has passed (`ensures_poll`).
-/

namespace TransactionKit

open Routine

/-- The time that a call takes at least. -/
def Call.span : Call → Nat
  | .sleep nanos => nanos
  | _ => 0

/-- Whether a call is an attempt to insert a record. -/
def Call.creates : Call → Bool
  | .create .. => true
  | _ => false

/-- The request to acquire a key is refused. -/
def Exchange.Refuses : Exchange → Prop
  | ⟨.request .., answer⟩ => ∃ e, answer = .error e
  | _ => False

/-- Where settings are valid there is a pause between two attempts. -/
theorem LockConfig.pollInterval_pos {config : LockConfig} (valid : config.validate = .ok ()) :
    0 < config.pollInterval := by
  have positive : 0 < config.pollIntervalMs := by
    apply Nat.pos_of_ne_zero
    intro zero
    simp [validate, zero] at valid
  exact Nat.mul_pos positive (by decide)

/-- The number of pauses that begin within a time, where settings are valid. -/
theorem Backend.pauses_eq_ceilDiv {backend : Backend} (valid : backend.config.validate = .ok ())
    (time : Nat) : backend.pauses time = time ⌈/⌉ backend.config.pollInterval := by
  have positive := LockConfig.pollInterval_pos valid
  have pace : backend.pace = backend.config.pollInterval := Nat.max_eq_right positive
  rw [pauses, pace, Nat.ceilDiv_eq_add_pred_div, Nat.add_sub_assoc positive]

namespace Tables

/-- Accesses may fail, and the clock goes on at least as long as somebody sleeps. Others may do
whatever they like after every call, but they insert no record under some keys of a backend. -/
def uncontended (backend : Backend) (keys : List LockKey) : Environment Tables :=
  fun s c answer t => s.time + c.span ≤ t.time ∧ ∃ u, faltering s c answer u ∧
    ∀ key ∈ keys, ∀ record, t.read backend.id key = some record →
      u.read backend.id key = some record

/-- No request to acquire a key is refused. -/
def granting (environment : Environment Tables) : Environment Tables :=
  fun s c answer t => environment s c answer t ∧ ¬ Exchange.Refuses ⟨c, answer⟩

/-- The number of attempts to insert a record. -/
def creations (trace : List (Moment Tables)) : Nat :=
  trace.countP fun moment => moment.exchange.call.creates

/-- The number of records under a key. -/
def occupancy (backend : Backend) (key : LockKey) (s : Tables) : Nat :=
  (s.read backend.id key).elim 0 fun _ => 1

/-- The clock has not gone back, and under some keys there is nothing new. -/
structure Ebbs (backend : Backend) (keys : List LockKey) (s t : Tables) : Prop where
  time : s.time ≤ t.time
  old : ∀ key ∈ keys, ∀ record, t.read backend.id key = some record →
    s.read backend.id key = some record

variable {backend : Backend} {keys : List LockKey} {key : LockKey} {s t u : Tables}
  {trace first second : List (Moment Tables)} {α : Type}

theorem Ebbs.refl (s : Tables) : Ebbs backend keys s s :=
  ⟨Int.le_refl _, fun _ _ _ => id⟩

theorem Ebbs.trans (one : Ebbs backend keys s u) (other : Ebbs backend keys u t) :
    Ebbs backend keys s t :=
  ⟨one.time.trans other.time,
    fun key member record found => one.old key member record (other.old key member record found)⟩

theorem occupancy_le_one (s : Tables) : occupancy backend key s ≤ 1 := by
  unfold occupancy
  cases s.read backend.id key <;> simp

theorem Ebbs.occupancy_le (ebbs : Ebbs backend keys s t) (member : key ∈ keys) :
    occupancy backend key t ≤ occupancy backend key s := by
  unfold occupancy
  cases found : t.read backend.id key with
  | none => exact Nat.zero_le _
  | some record =>
    rw [ebbs.old key member record found]

@[simp] theorem creations_append :
    creations (first ++ second) = creations first + creations second :=
  List.countP_append

theorem creations_cons (moment : Moment Tables) (trace : List (Moment Tables)) :
    creations (moment :: trace) =
      creations trace + if moment.exchange.call.creates then 1 else 0 :=
  List.countP_cons

theorem span_le_of_timely {c : Call} {answer : c.Answer} (answered : timely s c answer t) :
    s.time + c.span ≤ t.time := by
  cases c with
  | now =>
    have kept : s.time ≤ t.time := answered.2
    simpa [Call.span]
  | sleep nanos =>
    have slept : s.time + max 1 nanos ≤ t.time := answered
    simp only [Call.span]
    omega
  | _ =>
    have kept : s.time ≤ t.time := answered
    simpa [Call.span]

/-- Only a successful insertion brings a record under the keys. -/
theorem ebbs_of_step {c : Call} {answer : c.Answer} (answered : uncontended backend keys s c answer t)
    (nothing : ∀ n key record, ¬ Brings ⟨c, answer⟩ n key record) : Ebbs backend keys s t := by
  obtain ⟨time, u, faltered, others⟩ := answered
  refine ⟨by omega, fun key member record found => ?_⟩
  have origin := (changes_faltering faltered).origin backend.id key record
  exact (origin (others key member record found)).resolve_right (nothing _ _ _)

theorem ebbs_of_only {sort : Call → Prop} {r : Routine α} {a : α}
    (plain : ∀ c, sort c → c.creates = false) (only : Only sort r)
    (performed : Performs (uncontended backend keys) s r trace a t) :
    Ebbs backend keys s t ∧ creations trace = 0 := by
  induction performed with
  | done s a => exact ⟨.refl s, rfl⟩
  | @call s u t c next answer trace a answered rest ih =>
    obtain ⟨later, idle⟩ := ih (only.2 answer)
    have plain := plain c only.1
    have nothing (n key record) : ¬ Brings ⟨c, answer⟩ n key record := by
      cases c with
      | create => cases plain
      | _ => exact id
    refine ⟨(ebbs_of_step answered nothing).trans later, ?_⟩
    rw [creations_cons, idle]
    simp [plain]

/-! ## Attempts -/

section Attempts

variable {owner : Owner}

/-- The calls of an eviction insert nothing. -/
theorem ebbs_of_evictStale {answer : Except Error (Option Record)}
    (performed : Performs (uncontended backend keys) s (backend.evictStale key) trace answer t) :
    Ebbs backend keys s t ∧ creations trace = 0 := by
  have empties := LockOperation.only_empties backend (.evictStale key) (by simp)
  refine ebbs_of_only (fun c only => ?_) empties performed
  cases c with
  | create => exact only.elim
  | _ => rfl

/-- A removal that succeeds leaves no record under its key. -/
theorem occupancy_lt_of_remove {owner? : Option String} (member : key ∈ keys)
    (answered : uncontended backend keys s (.remove backend key owner?) (.ok true) t) :
    occupancy backend key t < occupancy backend key s := by
  obtain ⟨-, u, faltered, others⟩ := answered
  rcases faltered with ⟨removed, stored⟩ | ⟨⟨e, fails⟩, -⟩
  · have removed : ((s.table backend.id).remove key owner?).1 = true := (Except.ok.inj removed).symm
    obtain ⟨record, present, -⟩ := RecordTable.remove_fst_eq_true.mp removed
    have gone : u.read backend.id key = none := by
      rw [read, stored, Function.update_self, RecordTable.read_remove, if_pos ⟨removed, rfl⟩]
    have vacant : t.read backend.id key = none := by
      apply Option.eq_none_iff_forall_ne_some.mpr
      intro other found
      cases gone.symm.trans (others key member other found)
    have occupied : s.read backend.id key = some record := present
    simp [occupancy, vacant, occupied]
  · cases fails

/-- An eviction that reports a record leaves none under its key. -/
theorem occupancy_lt_of_evictStale {record : Record} (member : key ∈ keys)
    (performed : Performs (uncontended backend keys) s (backend.evictStale key) trace
      (.ok (some record)) t) : occupancy backend key t < occupancy backend key s := by
  obtain ⟨u, v, now, -, reading, looking, removing⟩ :=
    Backend.performs_evictStale_some performed
  calc occupancy backend key t
      < occupancy backend key v := occupancy_lt_of_remove member removing
    _ ≤ occupancy backend key u := (ebbs_of_step looking fun _ _ _ => id).occupancy_le member
    _ ≤ occupancy backend key s := (ebbs_of_step reading fun _ _ _ => id).occupancy_le member

/-- What has happened in an attempt. -/
structure Attempted (backend : Backend) (keys : List LockKey) (key : LockKey)
    (attempt : Backend.Attempt) (trace : List (Moment Tables)) (s t : Tables) : Prop where
  once : creations trace = 1
  ebbs : attempt ≠ .acquired → Ebbs backend keys s t
  vacated : attempt = .evicted → occupancy backend key t < occupancy backend key s

theorem attempted {attempt : Backend.Attempt} (member : key ∈ keys)
    (performed : Performs (uncontended backend keys) s (backend.attempt key owner) trace attempt t) :
    Attempted backend keys key attempt trace s t := by
  obtain ⟨now, u, created, v, rest, rfl, looking, creating, goes⟩ := Backend.goes_attempt performed
  have looked := ebbs_of_step looking fun _ _ _ => id
  have refused (failed : created ≠ .ok true) : Ebbs backend keys s v :=
    looked.trans (ebbs_of_step creating fun _ _ _ brought => failed brought.1)
  have one (idle : creations rest = 0) :
      creations (⟨s, .now, now⟩ :: ⟨u, .create backend _, created⟩ :: rest) = 1 := by
    rw [creations_cons, creations_cons, idle]
    rfl
  cases goes with
  | inserted => exact ⟨one rfl, by simp, by simp⟩
  | failed e => exact ⟨one rfl, fun _ => refused nofun, by simp⟩
  | kept evicting =>
    obtain ⟨swept, idle⟩ := ebbs_of_evictStale evicting
    exact ⟨one idle, fun _ => (refused nofun).trans swept, by simp⟩
  | evicted evicting =>
    obtain ⟨swept, idle⟩ := ebbs_of_evictStale evicting
    have before := (refused nofun).occupancy_le member
    have vacated := occupancy_lt_of_evictStale member evicting
    exact ⟨one idle, fun _ => (refused nofun).trans swept, fun _ => by omega⟩

end Attempts

/-! ## Waiting -/

/-- What leaves every table as it is inserts nothing. -/
theorem creates_eq_false (c : Call) (spares : SparesRecords c) : c.creates = false := by
  cases c with
  | create => exact spares.elim
  | _ => rfl

/-- The clock answers what it shows. -/
theorem now_eq_time {now : Int} (looking : uncontended backend keys s .now now t) :
    now = s.time := by
  obtain ⟨-, u, looked | ⟨fails, -⟩, -⟩ := looking
  · exact looked.1
  · exact fails.elim

theorem ensures_expired {moment : Int} :
    Ensures (uncontended backend keys) (fun _ expired _ => expired = decide (moment ≤ s.time)) s
      (Deadline.expired ⟨some moment⟩) := by
  intro now u looking
  obtain rfl := now_eq_time looking
  rfl

/-- A pause takes its time, or the time that is left. -/
theorem ensures_pause {moment : Int} {nanos : Nat} :
    Ensures (uncontended backend keys) (fun _ _ t => t.left moment ≤ s.left moment - nanos) s
      (Deadline.pause ⟨some moment⟩ nanos) := by
  intro now u looking _ t sleeping
  obtain rfl := now_eq_time looking
  have looked : s.time + 0 ≤ u.time := looking.1
  have slept : u.time + (min nanos (s.left moment) : Nat) ≤ t.time := sleeping.1
  change t.left moment ≤ s.left moment - nanos
  unfold left at slept ⊢
  omega

/-- After a refusal either the deadline has passed, or there is a pause that leaves room for fewer
pauses. -/
theorem ensures_retry {result : α} {again : Routine α} {moment : Int}
    {good : List (Moment Tables) → α → Tables → Prop}
    (valid : backend.config.validate = .ok ())
    (late : ∀ trace t, creations trace = 0 → moment ≤ t.time → good trace result t)
    (early : ∀ trace t, creations trace = 0 → Ebbs backend keys s t →
      backend.pauses (t.left moment) < backend.pauses (s.left moment) →
      Ensures (uncontended backend keys) (fun later => good (trace ++ later)) t again) :
    Ensures (uncontended backend keys) good s
      (Deadline.expired ⟨some moment⟩ >>= fun expired =>
        if expired then .done result
        else Deadline.pause ⟨some moment⟩ backend.config.pollInterval >>= fun _ => again) := by
  apply ensures_expired.bind
  rintro first _ u looking rfl
  obtain ⟨looked, idle⟩ := ebbs_of_only creates_eq_false (Deadline.only_expired trivial _) looking
  simp only [decide_eq_true_eq]
  split
  · rename_i passed
    apply late
    · rwa [List.append_nil]
    · exact passed.trans looked.time
  · rename_i ahead
    apply ensures_pause.bind
    intro second _ v pausing paused
    obtain ⟨waited, still⟩ :=
      ebbs_of_only creates_eq_false (Deadline.only_pause trivial (fun _ => trivial) _ _) pausing
    have pace : backend.pace = backend.config.pollInterval :=
      Nat.max_eq_right (LockConfig.pollInterval_pos valid)
    have shorter := left_le moment looked.time
    have fewer : backend.pauses (v.left moment) < backend.pauses (s.left moment) := by
      apply backend.pauses_lt
      · unfold left
        omega
      · omega
    simpa using early (first ++ second) v (by simp [idle, still]) (looked.trans waited) fewer

/-! ## Acquisition -/

section Acquisition

variable {owner : Owner} {moment : Int} {rounds nanos : Nat}

/-- The clock never goes back. -/
theorem time_le_of_performs {r : Routine α} {a : α}
    (performed : Performs (uncontended backend keys) s r trace a t) : s.time ≤ t.time := by
  induction performed with
  | done s a => exact Int.le_refl s.time
  | call answered rest ih =>
    have stepped := answered.1
    omega

/-- An acquisition of keys succeeds, or it names them all when its deadline has passed. -/
def Settles (wanted : List LockKey) (moment : Int) (answer : Except Error Unit) (t : Tables) :
    Prop :=
  answer = .ok () ∨ answer = .error (.lockTimeout (wanted.map LockKey.text)) ∧ moment ≤ t.time

/-- Each attempt but the last one is followed by a pause before the deadline, or it makes room
under the key, and that happens once at most. -/
theorem ensures_poll (valid : backend.config.validate = .ok ()) (member : key ∈ keys)
    (enough : backend.pauses (s.left moment) + occupancy backend key s + 1 ≤ rounds) :
    Ensures (uncontended backend keys) (fun trace answer t =>
      (1 ≤ creations trace ∧
        creations trace ≤ backend.pauses (s.left moment) + occupancy backend key s + 1) ∧
      Settles [key] moment answer t) s (backend.poll key owner ⟨some moment⟩ rounds) := by
  induction rounds generalizing s with
  | zero => omega
  | succ rounds ih =>
    apply ((backend.ends_attempt key owner).ensures fun _ _ _ => attempted member).bind
    intro trace attempt u _ made
    have once := made.once
    cases attempt with
    | acquired =>
      refine ⟨?_, .inl rfl⟩
      rw [List.append_nil]
      omega
    | evicted =>
      have shorter := backend.pauses_mono (left_le moment (made.ebbs nofun).time)
      have vacated := made.vacated rfl
      apply (ih (by omega)).mono
      intro later answer t _ ⟨counted, settled⟩
      refine ⟨?_, settled⟩
      rw [creations_append]
      omega
    | refused =>
      have shorter := backend.pauses_mono (left_le moment (made.ebbs nofun).time)
      have fewer := (made.ebbs nofun).occupancy_le member
      apply ensures_retry valid
      · intro idle t none passed
        refine ⟨?_, .inr ⟨rfl, passed⟩⟩
        rw [creations_append]
        omega
      · intro idle v none ebbs less
        have still := ebbs.occupancy_le member
        apply (ih (by omega)).mono
        intro later answer t _ ⟨counted, settled⟩
        refine ⟨?_, settled⟩
        rw [creations_append, creations_append]
        omega

/-- The acquisition of a key within a timeout ends after two attempts more than there are pauses
in that time at most, unless it is refused from the beginning. -/
theorem ensures_lock (valid : backend.config.validate = .ok ()) (member : key ∈ keys)
    (enough : backend.pauses nanos + 2 ≤ rounds) :
    Ensures (uncontended backend keys) (fun trace answer t =>
      (∃ moment ∈ trace, moment.exchange.Refuses) ∨
      (1 ≤ creations trace ∧ creations trace ≤ backend.pauses nanos + 2) ∧
        Settles [key] (s.time + nanos) answer t)
      s (backend.lock rounds key owner (.after nanos)) := by
  intro granted u requesting
  have requested := (ebbs_of_step requesting fun _ _ _ => id).time
  cases granted with
  | error e => exact .inl ⟨_, .head _, e, rfl⟩
  | ok _ =>
    intro now v looking
    obtain rfl := now_eq_time looking
    have looked := (ebbs_of_step looking fun _ _ _ => id).time
    have shorter : backend.pauses (v.left (u.time + nanos)) ≤ backend.pauses nanos := by
      apply backend.pauses_mono
      unfold left
      omega
    have single : occupancy backend key v ≤ 1 := occupancy_le_one v
    apply (ensures_poll valid member (by omega)).mono
    intro later answer t _ ⟨counted, settled⟩
    refine .inr ⟨?_, settled.imp_right fun late => ⟨late.1, by omega⟩⟩
    simp only [creations_cons, Call.creates, Bool.false_eq_true, if_false]
    omega

/-- Where no request is refused, none is refused in an execution. -/
theorem not_refuses_of_granting {environment : Environment Tables} {r : Routine α} {a : α}
    (performed : Performs (granting environment) s r trace a t) :
    ∀ moment ∈ trace, ¬ moment.exchange.Refuses := by
  induction performed with
  | done s a => exact List.forall_mem_nil _
  | call answered rest ih => exact List.forall_mem_cons.mpr ⟨answered.2, ih⟩

theorem ensures_lock_of_granting (valid : backend.config.validate = .ok ()) (member : key ∈ keys)
    (enough : backend.pauses nanos + 2 ≤ rounds) :
    Ensures (granting (uncontended backend keys)) (fun trace answer t =>
      (1 ≤ creations trace ∧ creations trace ≤ backend.pauses nanos + 2) ∧
        Settles [key] (s.time + nanos) answer t)
      s (backend.lock rounds key owner (.after nanos)) := by
  apply ((ensures_lock valid member enough).restrict And.left).mono
  intro trace answer t performed good
  apply good.resolve_left
  rintro ⟨moment, present, refused⟩
  exact not_refuses_of_granting performed moment present refused

end Acquisition

end Tables

end TransactionKit
