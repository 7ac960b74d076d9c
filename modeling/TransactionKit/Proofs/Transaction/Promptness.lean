import TransactionKit.Proofs.Lock.Promptness
import TransactionKit.Proofs.Transaction.AllOrNothing

/-!
How soon the acquisition of several keys ends where nobody else takes one of them. It repeats the
acquisition of a key as that repeats an attempt, and both look at the same deadline: what an
acquisition may wait for is what is left until then, so the pauses of all of them together fit into
the timeout (`ensures_acquireKey`), and it is given up only when the deadline has passed
(`acquisition_prompt`).
-/

namespace TransactionKit

namespace TransactionLock

open Routine Tables

variable {backend : Backend} {keys : List LockKey} {owner : Owner} {s : Tables} {moment : Int}
  {rounds nanos : Nat}

/-- The deadline of a key that is not acquired has passed. -/
theorem ensures_acquireKey {key : LockKey} {attempts : Nat}
    (valid : backend.config.validate = .ok ()) (member : key ∈ keys)
    (patient : backend.pauses (s.left moment) + 2 ≤ attempts)
    (enough : backend.pauses (s.left moment) < rounds) :
    Ensures (uncontended backend keys) (fun _ got t => got = false → moment ≤ t.time) s
      (acquireKey attempts backend owner ⟨some moment⟩ key rounds) := by
  induction rounds generalizing s with
  | zero => omega
  | succ rounds ih =>
    intro now u reading
    obtain rfl := now_eq_time reading
    have looked : s.time ≤ u.time := (ebbs_of_step reading fun _ _ _ => id).time
    apply (ensures_lock valid member patient).bind
    intro trace answer v locking _
    have shorter : backend.pauses (v.left moment) ≤ backend.pauses (s.left moment) :=
      backend.pauses_mono (left_le moment (looked.trans (time_le_of_performs locking)))
    cases answer with
    | ok _ => exact nofun
    | error e =>
      apply ensures_retry valid
      · exact fun _ _ _ passed _ => passed
      · intro idle w _ _ fewer
        exact ih (by omega) (by omega)

theorem ensures_acquireKeys {acquired wanted : List LockKey}
    (valid : backend.config.validate = .ok ()) (members : wanted ⊆ keys)
    (enough : backend.pauses (s.left moment) + 2 ≤ rounds) :
    Ensures (uncontended backend keys) (fun _ result t => result.1 = false → moment ≤ t.time) s
      (acquireKeys rounds backend owner ⟨some moment⟩ acquired wanted) := by
  induction wanted generalizing s acquired with
  | nil => exact nofun
  | cons key rest ih =>
    obtain ⟨member, members⟩ := List.cons_subset.mp members
    apply (ensures_acquireKey valid member enough (by omega)).bind
    intro trace got u acquiring late
    have shorter : backend.pauses (u.left moment) ≤ backend.pauses (s.left moment) :=
      backend.pauses_mono (left_le moment (time_le_of_performs acquiring))
    cases got with
    | true => exact ih members (by omega)
    | false => exact fun _ => late rfl

theorem ensures_lock {this : TransactionLock} (created : this.state = .created)
    (backend? : this.backend? = some backend) (valid : backend.config.validate = .ok ())
    (enough : backend.pauses nanos + 2 ≤ rounds) :
    Ensures (uncontended backend this.keys)
      (fun _ result t => Settles this.keys (s.time + nanos) result.1 t) s
      (this.lock rounds (.after nanos)) := by
  rw [lock_eq created backend?]
  intro now u looking
  obtain rfl := now_eq_time looking
  have looked : s.time ≤ u.time := (ebbs_of_step looking fun _ _ _ => id).time
  have shorter : backend.pauses (u.left (s.time + nanos)) ≤ backend.pauses nanos := by
    apply backend.pauses_mono
    unfold left
    omega
  apply (ensures_acquireKeys valid (List.Subset.refl _) (by omega)).bind
  rintro trace ⟨complete, got⟩ v acquiring late
  cases complete with
  | true => exact .inl rfl
  | false =>
    have ends : (releaseKeys backend this.owner got.reverse).Ends := ends_releaseKeys ..
    apply (ends.ensures fun _ _ _ => time_le_of_performs).bind
    intro releasing _ t _ later
    exact .inr ⟨rfl, (late rfl).trans later⟩

/-- Where settings are valid and nobody else takes a key, an acquisition ends within two rounds
more than there are intervals in its timeout. One key is attempted that often at most, and once at
least. The acquisition of many repeats those of the single ones, and these may also be refused. -/
theorem acquisition_prompt (valid : backend.config.validate = .ok ())
    (enough : nanos ⌈/⌉ backend.config.pollInterval + 2 ≤ rounds) :
    (∀ key owner s, Ensures (granting (uncontended backend [key]))
      (fun trace answer t =>
        (1 ≤ creations trace ∧ creations trace ≤ nanos ⌈/⌉ backend.config.pollInterval + 2) ∧
          Settles [key] (s.time + nanos) answer t)
      s (backend.lock rounds key owner (.after nanos))) ∧
    ∀ this : TransactionLock, this.state = .created → this.backend? = some backend → ∀ s,
      Ensures (uncontended backend this.keys)
        (fun _ result t => Settles this.keys (s.time + nanos) result.1 t)
        s (this.lock rounds (.after nanos)) := by
  rw [← Backend.pauses_eq_ceilDiv valid] at enough ⊢
  constructor
  · intro key owner s
    exact ensures_lock_of_granting valid List.mem_cons_self enough
  · intro this created backend? s
    exact ensures_lock created backend? valid enough

theorem uncontended_faulty (refused : LockKey → Bool) (s : Tables) (c : Call) :
    uncontended backend keys s c (faulty refused c s).1 (faulty refused c s).2 :=
  ⟨span_le_of_timely (timely_faulty refused s c), _, faltering_faulty refused s c,
    fun _ _ _ => id⟩

theorem granting_faulty (refused : LockKey → Bool) (s : Tables) (c : Call) :
    granting (uncontended backend keys) s c (faulty refused c s).1 (faulty refused c s).2 := by
  refine ⟨uncontended_faulty refused s c, ?_⟩
  cases c with
  | request => exact nofun
  | _ => exact id

/-- A world in which the second key of the pair is never acquired. -/
def withholding : Handler Tables :=
  faulty fun key => key.text = "b"

/-- The acquisition of that key times out after one interval, and so does that of the pair. -/
theorem pairLock_acquisition_prompt :
    LockConfig.validate {} = .ok () ∧ 50000000 ⌈/⌉ LockConfig.pollInterval {} + 2 ≤ 3 ∧
    ∃ t after u,
      (Backend.lock 3 ⟨0, {}⟩ ⟨"b"⟩ ⟨"me", "client"⟩ (.after 50000000)).run withholding
        abandonedTables = (some (.error (.lockTimeout ["b"])), t) ∧
      300050000001 ≤ t.time ∧
      (pairLock.lock 3 (.after 50000000)).run withholding abandonedTables =
        (some (.error (.lockTimeout ["a", "b"]), after), u) ∧
      300050000001 ≤ u.time := by
  have enough : 50000000 ⌈/⌉ LockConfig.pollInterval {} + 2 ≤ 3 := by decide
  obtain ⟨single, pair⟩ := @acquisition_prompt ⟨0, {}⟩ 3 50000000 rfl enough
  obtain ⟨answer, t, ran, -, settled⟩ :=
    (single ⟨"b"⟩ ⟨"me", "client"⟩ abandonedTables).run (granting_faulty fun key => key.text = "b")
  obtain ⟨result, u, ranPair, settledPair⟩ :=
    (pair pairLock rfl rfl abandonedTables).run (uncontended_faulty fun key => key.text = "b")
  obtain rfl : .error (.lockTimeout ["b"]) = answer :=
    Option.some.inj (congrArg Prod.fst ran)
  obtain ⟨-, late⟩ := settled.resolve_left nofun
  obtain ⟨answerPair, after⟩ := result
  obtain rfl : .error (.lockTimeout ["a", "b"]) = answerPair :=
    congrArg Prod.fst (Option.some.inj (congrArg Prod.fst ranPair))
  obtain ⟨-, latePair⟩ := settledPair.resolve_left nofun
  exact ⟨rfl, enough, t, after, u, ran, late, ranPair, latePair⟩

end TransactionLock

end TransactionKit
