import TransactionKit.Proofs.Transaction.Holding

/-!
What giving a lock up takes out of the tables (`Takes`), and what the check of a locked one finds
there: a fresh record of the owner under each of the acquired keys (`FoundValid`), or it comes to a
key that has none (`FoundLost`).
-/

namespace TransactionKit

open Routine Tables

variable {s t u : Tables} {trace : List (Moment Tables)}

namespace TransactionLock

/-! ## What a release takes -/

/-- What the release of a lock takes. -/
def Takes (lock : TransactionLock) (n : Nat) (key : LockKey) (record : Record) : Prop :=
  ∃ backend, lock.backend? = some backend ∧ Releasable backend lock.owner lock.acquired n key record

theorem Standing.withdrawn_discard {lock : TransactionLock} (standing : lock.Standing)
    (performed : Performs answers s lock.discard trace () t) : Withdrawn lock.Takes s t := by
  obtain ⟨left, -, releasing⟩ := performs_bind_done_iff.mp performed
  rw [standing.release_eq] at releasing
  obtain ⟨_, -, giving⟩ := performs_bind_done_iff.mp releasing
  unfold giveBack at giving
  cases own : lock.backend? with
  | none =>
    simp only [own] at giving
    obtain ⟨rfl, -, rfl⟩ := performs_done_iff.mp giving
    refine .of_eq rfl fun n key record _ => ?_
    rintro ⟨backend, same, -⟩
    rw [own] at same
    cases same
  | some backend =>
    simp only [own] at giving
    refine (withdrawn_releaseKeys giving).mono fun n key record _ => ?_
    simp [Takes, own, Releasable]

/-! ## What a check finds -/

/-- A lock has a record under every acquired key, which was fresh at a moment of a trace. -/
def FoundValid (lock : TransactionLock) (trace : List (Moment Tables)) (s : Tables) : Prop :=
  ∃ backend, lock.backend? = some backend ∧ ∀ key ∈ lock.acquired, ∃ record,
    s.read backend.id key = some record ∧ record.owner = lock.owner.token ∧
      FreshIn backend trace key record

/-- Under one of the acquired keys a lock has no record, or one that was stale at a moment of a
trace. -/
def FoundLost (lock : TransactionLock) (trace : List (Moment Tables)) (s : Tables) : Prop :=
  ∃ backend, lock.backend? = some backend ∧ ∃ key ∈ lock.acquired, ∀ record,
    s.read backend.id key = some record → record.owner = lock.owner.token →
      AgedIn backend trace backend.id key record

/-- A check that finds a key lost has come to one without a record of the owner, but for one that it
has found stale. -/
theorem lost_of_performs_anyLost {backend : Backend} {owner : Owner} {keys : List LockKey}
    (performed : Performs answers s (anyLost backend owner keys) trace true t) :
    ∃ key ∈ keys, ∀ record, s.read backend.id key = some record → record.owner = owner.token →
      AgedIn backend trace backend.id key record := by
  induction keys generalizing s trace with
  | nil =>
    obtain ⟨-, same, -⟩ := performs_done_iff.mp performed
    cases same
  | cons key rest ih =>
    obtain ⟨answer, u, first, second, rfl, checking, performed⟩ := performs_bind_iff.mp performed
    obtain ⟨⟨held, rfl, isHeld⟩, changes, -⟩ := performs_isHeldBy checking
    cases held with
    | false =>
      refine ⟨key, List.mem_cons_self, fun record found own => ?_⟩
      rcases changes.fate _ key record found with kept | ⟨-, aged⟩
      · cases isHeld.mpr ⟨record, kept, own⟩
      · exact aged.append_left
    | true =>
      obtain ⟨other, member, lost⟩ := ih performed
      refine ⟨other, List.mem_cons_of_mem _ member, fun record found own => ?_⟩
      rcases changes.fate _ other record found with kept | ⟨-, aged⟩
      · exact (lost record kept own).append_right
      · exact aged.append_left

/-- What the check of a locked lock finds. Where it finds it valid, nothing has happened to the
records of the owner under its keys. -/
theorem Standing.performs_isLocked_found {base left : TransactionLock} {valid : Bool}
    (standing : base.Standing) (locked : base.state = .locked)
    (performed : Performs answers s base.isLocked trace (valid, left) t) :
    (valid = true ∧ left = base ∧ base.FoundValid trace s ∧
        ∀ n key record, base.Holds n key → record.owner = base.owner.token →
          (t.read n key = some record ↔ s.read n key = some record)) ∨
      (valid = false ∧ left = base.finished ∧ base.FoundLost trace s) := by
  have outcome := (standing.performs_isLocked performed).2
  obtain ⟨backend, own⟩ := (standing.of_locked locked).2
  unfold isLocked at performed
  simp only [locked, own] at performed
  obtain ⟨lost, u, first, second, rfl, checking, ended⟩ := performs_bind_iff.mp performed
  obtain ⟨changes, found⟩ := performs_anyLost checking
  cases lost with
  | false =>
    obtain ⟨rfl, same, rfl⟩ := performs_done_iff.mp ended
    cases same
    rw [List.append_nil]
    refine .inl ⟨rfl, rfl, ⟨backend, own, fun key member => ?_⟩, ?_⟩
    · obtain ⟨record, present, mine, fresh⟩ := found rfl key member
      exact ⟨record, changes.read_of_read present, mine, fresh⟩
    · rintro n key record ⟨other, same, rfl, member⟩ mine
      cases own.symm.trans same
      refine ⟨changes.read_of_read, fun before => ?_⟩
      obtain ⟨other, present, -⟩ := found rfl key member
      cases before.symm.trans (changes.read_of_read present)
      exact present
  | true =>
    obtain ⟨key, member, lost⟩ := lost_of_performs_anyLost checking
    have isLost : base.FoundLost (first ++ second) s :=
      ⟨backend, own, key, member, fun record found mine => (lost record found mine).append_left⟩
    obtain ⟨kept, w, third, fourth, rfl, -, ended⟩ := performs_bind_iff.mp ended
    obtain ⟨gone, same, -⟩ := performs_bind_done_iff.mp ended
    cases same
    rcases outcome with ⟨valid, -⟩ | ⟨-, -, left⟩ | ⟨-, unlocked, -⟩
    · cases valid
    · exact .inr ⟨rfl, left, isLost⟩
    · exact absurd locked unlocked

end TransactionLock

end TransactionKit
