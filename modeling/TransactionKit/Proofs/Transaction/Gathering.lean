import TransactionKit.Proofs.Lock.Interference
import TransactionKit.Proofs.Transaction.Holding

/-!
Several keys at once, while others use the tables and accesses may fail. An acquisition of several
keys has a record of its owner under each key that it has acquired so far, and under no other one
(`Collects`). Giving keys back and looking at them brings no record of ours: our records only fade.
-/

namespace TransactionKit

open Routine

namespace Tables

/-- Every record of ours that is there was there before. -/
def Fades (mine : String → Prop) (s t : Tables) : Prop :=
  ∀ n key record, mine record.owner → t.read n key = some record → s.read n key = some record

variable {mine : String → Prop} {exposed : Call → Prop} {s t u : Tables}

theorem Fades.refl (mine : String → Prop) (s : Tables) : Fades mine s s :=
  fun _ _ _ _ found => found

theorem Fades.trans (first : Fades mine s u) (second : Fades mine u t) : Fades mine s t :=
  fun n key record own found => first n key record own (second n key record own found)

theorem Fades.held (fades : Fades mine s t) {n : Nat} {key : LockKey} {token : String}
    (own : mine token) (held : t.Held n key token) : s.Held n key token := by
  obtain ⟨record, found, rfl⟩ := held
  exact ⟨record, fades n key record own found, rfl⟩

/-- A routine that inserts records in nobody's name brings none of ours. -/
theorem fades_of_only {α : Type} {r : Routine α} {trace : List (Moment Tables)} {a : α}
    (only : ∀ token, Only (Call.LocksFor token) r)
    (performed : Performs (visited mine exposed faltering) s r trace a t) : Fades mine s t := by
  induction performed with
  | done s a => exact .refl mine s
  | @call s u t c next answer trace a answered rest ih =>
    apply Fades.trans _ (ih fun token => (only token).2 answer)
    intro n key record own found
    rcases (changes_step answered).origin n key record found with before | brought
    · exact before
    · cases c with
      | create backend record' =>
        -- the name would have to be every name
        have first : record'.owner = "" := (only "").1
        have second : record'.owner = "a" := (only "a").1
        exact absurd (first.symm.trans second) (by decide)
      | _ => exact (brought own).elim

end Tables

namespace TransactionLock

open Tables

variable {mine : String → Prop} {exposed : Call → Prop} {s t u : Tables} {backend : Backend}
  {owner : Owner} {trace : List (Moment Tables)}

/-! ## Acquiring several keys -/

/-- What the acquisition of several keys has done when it ends, with all of them or before. -/
structure Collects (mine : String → Prop) (backend : Backend) (owner : Owner)
    (acquired keys got : List LockKey) (s t : Tables) : Prop where
  kept : acquired ⊆ got
  part : got.Sublist (acquired ++ keys)
  changes : Changes
    (fun n key record => mine record.owner →
      n = backend.id ∧ key ∈ got ∧ record.owner = owner.token)
    (fun n key record => mine record.owner → n = backend.id ∧ key ∈ keys) s t
  held : (acquired ++ keys).Nodup → (∀ key ∈ acquired, s.Held backend.id key owner.token) →
    ∀ key ∈ got, t.Held backend.id key owner.token

theorem collects_acquireKeys (own : mine owner.token) {rounds : Nat} {deadline : Deadline}
    {acquired keys got : List LockKey} {complete : Bool}
    (performed : Performs (visited mine exposed faltering) s
      (acquireKeys rounds backend owner deadline acquired keys) trace (complete, got) t) :
    Collects mine backend owner acquired keys got s t := by
  induction keys generalizing s trace acquired with
  | nil =>
    obtain ⟨rfl, same, rfl⟩ := performs_done_iff.mp performed
    cases same
    exact ⟨fun _ => id, List.sublist_append_left .., .of_eq rfl, fun _ => id⟩
  | cons key rest ih =>
    obtain ⟨one, u, first, second, rfl, acquiring, performed⟩ := performs_bind_iff.mp performed
    have seizes := law_of_acquireKey (acquisitionLaw_visited own ..) acquiring
    -- the keys that were acquired before stay as they are
    have still (distinct : (acquired ++ key :: rest).Nodup)
        (held : ∀ other ∈ acquired, s.Held backend.id other owner.token) :
        ∀ other ∈ acquired, u.Held backend.id other owner.token := by
      intro other member
      obtain ⟨record, found, same⟩ := held other member
      rcases seizes.changes.fate _ other record found with found | lost
      · exact ⟨record, found, same⟩
      · obtain ⟨-, rfl⟩ := lost (same ▸ own)
        exact absurd rfl ((List.nodup_append.mp distinct).2.2 other member other List.mem_cons_self)
    have narrow {got : List LockKey} (member : one = true → key ∈ got) : Changes
        (fun n k record => mine record.owner →
          n = backend.id ∧ k ∈ got ∧ record.owner = owner.token)
        (fun n k record => mine record.owner → n = backend.id ∧ k ∈ key :: rest) s u := by
      apply seizes.changes.mono
      · intro n k record _ gained ours
        obtain ⟨acquired, rfl, rfl, same⟩ := gained ours
        exact ⟨rfl, member acquired, same⟩
      · intro n k record _ lost ours
        obtain ⟨rfl, rfl⟩ := lost ours
        exact ⟨rfl, List.mem_cons_self⟩
    cases one with
    | true =>
      obtain ⟨kept, part, changes, held⟩ := ih performed
      constructor
      · exact fun other member => kept (List.mem_append_left _ member)
      · simpa using part
      · apply (narrow fun _ => kept (List.mem_append_right _ List.mem_cons_self)).trans
        apply changes.mono (fun _ _ _ _ => id)
        exact fun n k record _ lost ours => (lost ours).imp_right (List.mem_cons_of_mem key)
      · intro distinct before
        apply held (by simpa using distinct)
        intro other member
        rcases List.mem_append.mp member with old | new
        · exact still distinct before other old
        · rw [List.mem_singleton.mp new]
          exact seizes.held rfl
    | false =>
      obtain ⟨rfl, same, rfl⟩ := performs_done_iff.mp performed
      cases same
      exact ⟨fun _ => id, List.sublist_append_left .., narrow (by simp), still⟩

/-- The acquisition of all keys of a lock, up to the point where it is decided. -/
def acquisition (rounds : Nat) (timeout : Timeout) (backend : Backend) (this : TransactionLock) :
    Routine (Bool × List LockKey) := do
  let deadline ← Deadline.after timeout
  acquireKeys rounds backend this.owner deadline this.acquired this.keys

theorem Standing.exists_backend {this : TransactionLock} (standing : this.Standing)
    (created : this.state = .created) : ∃ backend, this.backend? = some backend := by
  cases standing with
  | created objects backend owner relaxed => exact ⟨backend, rfl⟩
  | locked => cases created
  | released => cases created

/-- A created lock acquires its keys, and then it is locked or gives back what it has got. -/
theorem lock_eq {this : TransactionLock} (created : this.state = .created)
    (backend? : this.backend? = some backend) (rounds : Nat) (timeout : Timeout) :
    this.lock rounds timeout = this.acquisition rounds timeout backend >>= fun (complete, got) =>
      if complete then .done (.ok (), { this with state := .locked, acquired := got })
      else releaseKeys backend this.owner got.reverse >>= fun _ => .done
        (.error (.lockTimeout (this.keys.map LockKey.text)), { this with acquired := [] }) := by
  unfold TransactionLock.lock acquisition
  rw [created, backend?, bind_assoc]
  rfl

/-- Where the acquisition of a created lock ends, it has got all keys, or it gives back those that
it has got and times out. -/
theorem Standing.performs_lock_split {environment : Environment Tables}
    {this after : TransactionLock} (standing : this.Standing) (created : this.state = .created)
    (backend? : this.backend? = some backend) {rounds : Nat} {timeout : Timeout}
    {answer : Except Error Unit}
    (performed : Performs environment s (this.lock rounds timeout) trace (answer, after) t) :
    ∃ complete got u first second, trace = first ++ second ∧
      Performs environment s (this.acquisition rounds timeout backend) first (complete, got) u ∧
      (complete = true ∧ got = this.keys ∧ answer = .ok () ∧
          after = { this with state := .locked, acquired := this.keys } ∧ second = [] ∧ t = u ∨
        complete = false ∧ answer = .error (.lockTimeout (this.keys.map LockKey.text)) ∧
          after = this ∧
          Performs environment u (releaseKeys backend this.owner got.reverse) second () t) := by
  have vacant := (standing.of_created created).1
  rw [lock_eq created backend?] at performed
  obtain ⟨⟨complete, got⟩, u, first, second, rfl, acquiring, performed⟩ :=
    performs_bind_iff.mp performed
  refine ⟨complete, got, u, first, second, rfl, acquiring, ?_⟩
  cases complete with
  | true =>
    left
    have all : true = true → got = this.acquired ++ this.keys :=
      acquiring.returned ((returns_free _).bind fun deadline _ => returns_acquireKeys this.keys)
    rw [vacant, List.nil_append] at all
    obtain ⟨rfl, same, rfl⟩ := performs_done_iff.mp performed
    cases same
    cases all rfl
    exact ⟨rfl, rfl, rfl, rfl, rfl, rfl⟩
  | false =>
    right
    obtain ⟨_, same, releasing⟩ := performs_bind_done_iff.mp performed
    cases same
    refine ⟨rfl, rfl, ?_, releasing⟩
    cases this
    cases vacant
    rfl

theorem Standing.collects_acquisition {this : TransactionLock} (standing : this.Standing)
    (created : this.state = .created) (own : mine this.owner.token) {rounds : Nat}
    {timeout : Timeout} {complete : Bool} {got : List LockKey}
    (performed : Performs (visited mine exposed faltering) s
      (this.acquisition rounds timeout backend) trace (complete, got) t) :
    Collects mine backend this.owner [] this.keys got s t := by
  have vacant := (standing.of_created created).1
  obtain ⟨deadline, u, first, second, rfl, starting, performed⟩ := performs_bind_iff.mp performed
  rw [vacant] at performed
  obtain ⟨kept, part, changes, held⟩ := collects_acquireKeys own performed
  have started := changes_of_sparing (Deadline.only_after trivial timeout) starting
  constructor
  · exact kept
  · exact part
  · apply Changes.trans _ changes
    apply started.mono
    · exact fun n key record _ notOurs ours => absurd ours notOurs
    · exact fun n key record _ notOurs ours => absurd ours notOurs
  · exact fun distinct _ => held distinct (by simp)

/-! ## Giving several keys back -/

/-- Where no access fails, nothing of the owner is left under keys that are given back. -/
theorem not_held_of_releaseKeys (own : mine owner.token) {keys : List LockKey}
    (performed : Performs (visited mine exposed answers) s (releaseKeys backend owner keys) trace
      () t) : ∀ key ∈ keys, ¬ t.Held backend.id key owner.token := by
  induction keys generalizing s trace with
  | nil => simp
  | cons key rest ih =>
    obtain ⟨removed, u, first, second, rfl, releasing, performed⟩ := performs_bind_iff.mp performed
    have fades := fades_of_only (fun token => only_releaseKeys backend owner rest)
      (performed.mono visited_faltering)
    rw [List.forall_mem_cons]
    constructor
    · exact fun held => not_held_of_release own releasing (fades.held own held)
    · exact ih performed

/-- The keys that a check drops do not belong to the owner. -/
theorem not_held_of_notLost (own : mine owner.token) {keys left : List LockKey}
    (performed : Performs (visited mine exposed faltering) s (notLost backend owner keys) trace
      left t) : ∀ key ∈ keys, key ∉ left → ¬ t.Held backend.id key owner.token := by
  induction keys generalizing s trace left with
  | nil => simp
  | cons key rest ih =>
    obtain ⟨answer, u, first, second, rfl, checking, performed⟩ := performs_bind_iff.mp performed
    have kept (others : List LockKey) (split : left = key :: others)
        (filtering : Performs (visited mine exposed faltering) u (notLost backend owner rest) second
          others t) :
        ∀ other ∈ key :: rest, other ∉ left → ¬ t.Held backend.id other owner.token := by
      subst split
      intro other member dropped
      rcases List.mem_cons.mp member with rfl | later
      · exact absurd List.mem_cons_self dropped
      · exact ih filtering other later fun kept => dropped (List.mem_cons_of_mem key kept)
    match answer with
    | .ok false =>
      have fades := fades_of_only (fun token => only_notLost backend owner rest) performed
      rw [List.forall_mem_cons]
      constructor
      · exact fun _ held => not_held_of_isHeldBy own checking (fades.held own held)
      · exact ih performed
    | .ok true | .error e =>
      obtain ⟨others, split, filtering⟩ := performs_bind_done_iff.mp performed
      exact kept others split filtering

end TransactionLock

end TransactionKit
