import TransactionKit.Proofs.Transaction.Holding

/-!
Several locks at a time. A ledger of locks is balanced if every record of one of the tokens that
were issued is held by the lock of that token, and if the locks that nothing has happened to have
all the records that they hold (`Balanced`). What is done with one lock changes its entry only, so
the ledger stays balanced (`Balanced.manage`); and entries may be regrouped, for a lock is nested in
another or dropped when it holds nothing (`Balanced.regroup`).
-/

namespace TransactionKit

open TransactionLock

variable {s t : Tables} {clean : String → Prop} {issued : List String}
  {before after lock : TransactionLock} {locks rest : List TransactionLock}

/-- Locks with different tokens account for all records of the issued tokens. A lock is clean if
nothing has happened to its records but by operations on it. -/
structure Balanced (clean : String → Prop) (issued : List String) (locks : List TransactionLock)
    (s : Tables) : Prop where
  standing : ∀ lock ∈ locks, lock.Standing
  distinct : (locks.flatMap TransactionLock.tokens).Nodup
  known : ∀ token ∈ locks.flatMap TransactionLock.tokens, token ∈ issued
  accounts : ∀ n key record, s.read n key = some record → record.owner ∈ issued →
    ∃ lock ∈ locks, lock.owner.token = record.owner ∧ lock.Holds n key
  intact : ∀ lock ∈ locks, clean lock.owner.token → lock.Intact s

theorem Balanced.mono {fewer : String → Prop} (balanced : Balanced clean issued locks s)
    (weaken : ∀ token, fewer token → clean token) : Balanced fewer issued locks s :=
  { balanced with intact := fun lock member spared => balanced.intact lock member (weaken _ spared) }

theorem Balanced.perm {others : List TransactionLock} (balanced : Balanced clean issued locks s)
    (perm : locks.Perm others) : Balanced clean issued others s where
  standing lock member := balanced.standing lock (perm.mem_iff.mpr member)
  distinct := (perm.flatMap_right _).nodup_iff.mp balanced.distinct
  known token member := balanced.known token ((perm.flatMap_right _).mem_iff.mpr member)
  accounts n key record found own := by
    obtain ⟨lock, member, holds⟩ := balanced.accounts n key record found own
    exact ⟨lock, perm.mem_iff.mp member, holds⟩
  intact lock member := balanced.intact lock (perm.mem_iff.mpr member)

theorem Balanced.of_read (balanced : Balanced clean issued locks s) (same : t.read = s.read) :
    Balanced clean issued locks t where
  standing := balanced.standing
  distinct := balanced.distinct
  known := balanced.known
  accounts n key record found := balanced.accounts n key record (by rwa [← same])
  intact lock member spared n key holds := by
    rw [Tables.Held, same]
    exact balanced.intact lock member spared n key holds

/-- Other entries for the same holdings, with no other tokens. -/
theorem Balanced.regroup {old new : List TransactionLock}
    (balanced : Balanced clean issued (old ++ rest) s) (standing : ∀ lock ∈ new, lock.Standing)
    (tokens : (new.flatMap TransactionLock.tokens).Sublist (old.flatMap TransactionLock.tokens))
    (kept : ∀ n key, ∀ lock ∈ old, lock.Holds n key →
      ∃ other ∈ new, other.owner = lock.owner ∧ other.Holds n key)
    (held : ∀ n key, ∀ lock ∈ new, lock.Holds n key →
      ∃ other ∈ old, other.owner = lock.owner ∧ other.Holds n key) :
    Balanced clean issued (new ++ rest) s := by
  obtain ⟨standings, distinct, issues, accounts, intact⟩ := balanced
  simp only [List.flatMap_append] at distinct issues
  have sublist := tokens.append_right (rest.flatMap TransactionLock.tokens)
  refine ⟨fun lock member => ?_, ?_, ?_, fun n key record found own => ?_,
    fun lock member spared n key holds => ?_⟩
  · rcases List.mem_append.mp member with isNew | other
    · exact standing lock isNew
    · exact standings lock (List.mem_append_right _ other)
  · rw [List.flatMap_append]
    exact distinct.sublist sublist
  · rw [List.flatMap_append]
    exact fun token member => issues token (sublist.subset member)
  · obtain ⟨lock, member, same, holds⟩ := accounts n key record found own
    rcases List.mem_append.mp member with isOld | other
    · obtain ⟨heir, isNew, owner, holds⟩ := kept n key lock isOld holds
      exact ⟨heir, List.mem_append_left _ isNew, by rw [owner, same], holds⟩
    · exact ⟨lock, List.mem_append_right _ other, same, holds⟩
  · rcases List.mem_append.mp member with isNew | other
    · obtain ⟨source, isOld, owner, sourceHolds⟩ := held n key lock isNew holds
      rw [← owner] at spared ⊢
      exact intact source (List.mem_append_left _ isOld) spared n key sourceHolds
    · exact intact lock (List.mem_append_right _ other) spared n key holds

/-- A lock that holds nothing may go. -/
theorem Balanced.drop (balanced : Balanced clean issued (lock :: rest) s)
    (nothing : ∀ n key, ¬ lock.Holds n key) : Balanced clean issued rest s := by
  have entry : Balanced clean issued ([lock] ++ rest) s := balanced
  have none : Balanced clean issued ([] ++ rest) s := by
    refine entry.regroup (by simp) (List.nil_sublist _) (fun n key other member holds => ?_) (by simp)
    rw [List.mem_singleton.mp member] at holds
    exact absurd holds (nothing n key)
  exact none

/-- A new lock enters with a token that is in no record. -/
theorem Balanced.add (balanced : Balanced clean issued locks s) (standing : lock.Standing)
    (created : lock.state = .created)
    (fresh : lock.owner.token ∉ issued)
    (unused : ∀ n key record, s.read n key = some record → record.owner ≠ lock.owner.token) :
    Balanced clean (lock.owner.token :: issued) (lock :: locks) s := by
  obtain ⟨vacant, flat⟩ := standing.of_created created
  have tokens : (lock :: locks).flatMap TransactionLock.tokens =
      lock.owner.token :: locks.flatMap TransactionLock.tokens := by
    simp [TransactionLock.tokens, flat]
  refine ⟨fun other member => ?_, ?_, fun token member => ?_, fun n key record found own => ?_,
    fun other member isClean n key holds => ?_⟩
  · rcases List.mem_cons.mp member with rfl | member
    · exact standing
    · exact balanced.standing other member
  · rw [tokens]
    exact List.nodup_cons.mpr ⟨fun member => fresh (balanced.known _ member), balanced.distinct⟩
  · rw [tokens] at member
    rcases List.mem_cons.mp member with rfl | member
    · exact List.mem_cons_self
    · exact List.mem_cons_of_mem _ (balanced.known token member)
  · have old := (List.mem_cons.mp own).resolve_left (unused n key record found)
    obtain ⟨other, member, holds⟩ := balanced.accounts n key record found old
    exact ⟨other, List.mem_cons_of_mem _ member, holds⟩
  · rcases List.mem_cons.mp member with rfl | member
    · exact absurd holds (not_holds_of_vacant vacant)
    · exact balanced.intact other member isClean n key holds

/-- A created lock may be renamed. -/
theorem Balanced.describe {owner : Owner} (balanced : Balanced clean issued (lock :: rest) s)
    (created : lock.state = .created) (fresh : owner.token ∉ issued)
    (unused : ∀ n key record, s.read n key = some record → record.owner ≠ owner.token) :
    Balanced clean (owner.token :: issued) (lock.withOwner owner :: rest) s := by
  have standing := balanced.standing lock List.mem_cons_self
  have vacant := (standing.of_created created).1
  have others := balanced.drop fun _ _ => not_holds_of_vacant vacant
  exact others.add (standing.withOwner owner) created fresh unused

/-- The clean ones of some locks still have all the records that they hold. -/
def Unharmed (clean : String → Prop) (locks : List TransactionLock) (s t : Tables) : Prop :=
  ∀ lock ∈ locks, clean lock.owner.token → lock.Intact s → lock.Intact t

/-- Others insert no record of an issued token. -/
theorem Balanced.interfere (balanced : Balanced clean issued locks s)
    (others : ∀ n key record, t.read n key = some record →
      s.read n key = some record ∨ record.owner ∉ issued)
    (unharmed : Unharmed clean locks s t) : Balanced clean issued locks t where
  standing := balanced.standing
  distinct := balanced.distinct
  known := balanced.known
  accounts n key record found own := by
    rcases others n key record found with old | other
    · exact balanced.accounts n key record old own
    · exact absurd own other
  intact lock member isClean := unharmed lock member isClean (balanced.intact lock member isClean)

/-- Nobody else has a token that belongs to an entry. -/
theorem Balanced.ne_of_mem_tokens {holder : TransactionLock} {token : String}
    (balanced : Balanced clean issued (lock :: rest) s) (own : token ∈ lock.tokens)
    (member : holder ∈ rest) : holder.owner.token ≠ token := by
  have distinct := balanced.distinct
  rw [List.flatMap_cons] at distinct
  refine ((List.nodup_append.mp distinct).2.2 token own _ ?_).symm
  exact List.mem_flatMap.mpr ⟨holder, member, List.mem_cons_self⟩

theorem Balanced.foreign (balanced : Balanced clean issued (before :: rest) s) :
    ∀ lock ∈ rest, lock.owner.token ≠ before.owner.token :=
  fun _ => balanced.ne_of_mem_tokens List.mem_cons_self

theorem Balanced.accountsFor (balanced : Balanced clean issued (lock :: rest) s) :
    lock.AccountsFor s := by
  intro n key record found mine
  have issue : lock.owner.token ∈ issued :=
    balanced.known _ (List.mem_append_left _ List.mem_cons_self)
  obtain ⟨holder, member, same, holds⟩ := balanced.accounts n key record found (mine ▸ issue)
  rcases List.mem_cons.mp member with rfl | other
  · exact holds
  · exact absurd (same.trans mine) (balanced.foreign holder other)

/-- An entry is replaced when something was done with its lock, if that did no harm to others. -/
theorem Balanced.manage {trace : List (Moment Tables)}
    (balanced : Balanced clean issued (before :: rest) s)
    (manages : before.Manages after s t trace) (follows : before.Follows after)
    (unharmed : Unharmed clean rest s t) : Balanced clean issued (after :: rest) t := by
  have accountsFor := balanced.accountsFor
  obtain ⟨standings, distinct, known, accounts, intact⟩ := balanced
  simp only [List.flatMap_cons] at distinct known
  have sublist := follows.tokens.append_right (rest.flatMap TransactionLock.tokens)
  refine ⟨fun lock member => ?_, ?_, ?_, fun n key record found isIssued => ?_,
    fun lock member isClean => ?_⟩
  · rcases List.mem_cons.mp member with rfl | other
    · exact follows.standing
    · exact standings lock (List.mem_cons_of_mem _ other)
  · rw [List.flatMap_cons]
    exact distinct.sublist sublist
  · rw [List.flatMap_cons]
    exact fun token member => known token (sublist.subset member)
  · by_cases mine : record.owner = before.owner.token
    · refine ⟨after, List.mem_cons_self, by rw [follows.owner, mine], ?_⟩
      exact manages.accounts accountsFor n key record found (by rw [follows.owner, mine])
    · have present := (manages.origin n key record found).resolve_right mine
      obtain ⟨lock, member, same, holds⟩ := accounts n key record present isIssued
      rcases List.mem_cons.mp member with rfl | other
      · exact absurd same.symm mine
      · exact ⟨lock, List.mem_cons_of_mem _ other, same, holds⟩
  · rcases List.mem_cons.mp member with rfl | other
    · rw [follows.owner] at isClean
      exact manages.intact (intact before List.mem_cons_self isClean)
    · exact unharmed lock other isClean (intact lock (List.mem_cons_of_mem _ other) isClean)

/-- A lock that is given up leaves the ledger. -/
theorem Balanced.discard {trace : List (Moment Tables)}
    (balanced : Balanced clean issued (lock :: rest) s)
    (performed : Routine.Performs Tables.answers s lock.discard trace () t)
    (unharmed : Unharmed clean rest s t) : Balanced clean issued rest t := by
  have standing := balanced.standing lock List.mem_cons_self
  have managed :=
    balanced.manage (standing.performs_discard performed) lock.follows_finished unharmed
  exact managed.drop fun _ _ => not_holds_finished

/-- The level that is left takes its token along; nobody is called. -/
theorem Balanced.dropNested {others : List TransactionLock}
    (balanced : Balanced clean issued (lock :: rest) s) (fewer : others.Sublist lock.nested) :
    Balanced clean issued ({ lock with nested := others } :: rest) s := by
  have standing := (balanced.standing lock List.mem_cons_self).dropNested fewer
  have entry : Balanced clean issued ([lock] ++ rest) s := balanced
  have left : Balanced clean issued ([{ lock with nested := others }] ++ rest) s := by
    refine entry.regroup (by simpa using standing) ?_ (fun n key other member holds => ?_)
      fun n key other member holds => ?_
    · simpa [TransactionLock.tokens] using (fewer.map _).cons_cons lock.owner.token
    · rw [List.mem_singleton.mp member] at holds ⊢
      exact ⟨_, List.mem_singleton_self _, rfl, holds⟩
    · rw [List.mem_singleton.mp member] at holds ⊢
      exact ⟨_, List.mem_singleton_self _, rfl, holds⟩
  exact left

/-- The lock that is taken out of another one is released. -/
theorem Balanced.popNested {inner : TransactionLock} {others : List TransactionLock}
    (balanced : Balanced clean issued (lock :: rest) s) (nested : lock.nested = others ++ [inner]) :
    Balanced clean issued ({ lock with nested := others } :: inner.finished :: rest) s := by
  have fewer : others.Sublist lock.nested := by
    rw [nested]
    exact List.sublist_append_left others [inner]
  have standing := (balanced.standing lock List.mem_cons_self).dropNested fewer
  have entry : Balanced clean issued ([lock] ++ rest) s := balanced
  have popped : Balanced clean issued
      ([{ lock with nested := others }, inner.finished] ++ rest) s := by
    refine entry.regroup ?_ ?_ (fun n key other member holds => ?_)
      fun n key other member holds => ?_
    · simp [standing, inner.standing_finished]
    · simp [TransactionLock.tokens, nested, finished]
    · rw [List.mem_singleton.mp member] at holds
      exact ⟨_, List.mem_cons_self, by rw [List.mem_singleton.mp member], holds⟩
    · rcases List.mem_cons.mp member with rfl | member
      · exact ⟨lock, List.mem_singleton_self lock, rfl, holds⟩
      · rw [List.mem_singleton.mp member] at holds
        exact absurd holds not_holds_finished
  exact popped

/-- Of two locks of which the second is to be nested in the first, the first is left, with the
second nested in it or without. -/
theorem Balanced.pushNested {trace : List (Moment Tables)} {outer inner : TransactionLock}
    {answer : Except Error Unit} (balanced : Balanced clean issued (outer :: inner :: rest) s)
    (performed : Routine.Performs Tables.answers s (outer.pushNested inner) trace (answer, after) t)
    (unharmed : Routine.Performs Tables.answers s inner.discard trace () t →
      Unharmed clean (outer :: rest) s t) :
    Balanced clean issued (after :: rest) t ∧
      (∃ nested, after = { outer with nested := nested }) ∧
      after.tokens.Sublist (outer.tokens ++ inner.tokens) := by
  unfold TransactionLock.pushNested at performed
  cases refused : outer.refusal? inner with
  | some e =>
      simp only [refused] at performed
      obtain ⟨_, same, discarding⟩ := Routine.performs_bind_done_iff.mp performed
      cases same
      refine ⟨?_, ⟨after.nested, by cases after; rfl⟩, List.sublist_append_left _ _⟩
      exact (balanced.perm (.swap ..)).discard discarding (unharmed discarding)
  | none =>
      simp only [refused] at performed
      obtain ⟨rfl, same, rfl⟩ := Routine.performs_done_iff.mp performed
      cases same
      have outerStanding := balanced.standing outer List.mem_cons_self
      have innerStanding := balanced.standing inner (by simp)
      have fresh : inner.state = .created := (refusal?_eq_none_iff.mp refused).2.1
      obtain ⟨vacant, flat⟩ := innerStanding.of_created fresh
      have tokens : TransactionLock.tokens { outer with nested := outer.nested ++ [inner.asNested] } =
          outer.tokens ++ inner.tokens := by
        simp [TransactionLock.tokens, flat, asNested]
      have entries : Balanced clean issued ([outer, inner] ++ rest) t := balanced
      have nested : Balanced clean issued
          ([{ outer with nested := outer.nested ++ [inner.asNested] }] ++ rest) t := by
        refine entries.regroup (by simpa using outerStanding.nest innerStanding refused) ?_
          (fun n key lock member holds => ?_) fun n key lock member holds => ?_
        · simp [tokens]
        · rcases List.mem_cons.mp member with rfl | member
          · exact ⟨_, List.mem_singleton_self _, rfl, holds⟩
          · rw [List.mem_singleton.mp member] at holds
            obtain ⟨backend, -, -, acquired⟩ := holds
            rw [vacant] at acquired
            cases acquired
        · rw [List.mem_singleton.mp member] at holds ⊢
          exact ⟨outer, List.mem_cons_self, rfl, holds⟩
      exact ⟨nested, ⟨_, rfl⟩, by rw [← tokens]; exact .refl _⟩

/-! ## Harm -/

/-- A clean lock is left alone by what is done with another one, if that one has lost no record
either and no record of a clean lock is stale by its settings. -/
def Spared (clean : String → Prop) (lock : TransactionLock) (trace : List (Moment Tables)) : Prop :=
  ∀ token, clean token → clean lock.owner.token ∧
    ∀ n key record, record.owner = token → ¬ lock.Outlives trace n key record

theorem Spared.left {first second : List (Moment Tables)}
    (spared : Spared clean lock (first ++ second)) : Spared clean lock first := by
  intro token isClean
  obtain ⟨selfClean, young⟩ := spared token isClean
  refine ⟨selfClean, fun n key record own ⟨backend, same, aged⟩ => ?_⟩
  exact young n key record own ⟨backend, same, aged.append_left⟩

theorem Spared.right {first second : List (Moment Tables)}
    (spared : Spared clean lock (first ++ second)) : Spared clean lock second := by
  intro token isClean
  obtain ⟨selfClean, young⟩ := spared token isClean
  refine ⟨selfClean, fun n key record own ⟨backend, same, aged⟩ => ?_⟩
  exact young n key record own ⟨backend, same, aged.append_right⟩

theorem Spared.of_follows {trace : List (Moment Tables)} (follows : before.Follows after)
    (spared : Spared clean before trace) : Spared clean after trace := by
  intro token isClean
  obtain ⟨selfClean, young⟩ := spared token isClean
  refine ⟨by rwa [follows.owner], fun n key record own ⟨backend, same, aged⟩ => ?_⟩
  rcases follows.backend? with none | kept
  · rw [same] at none
    cases none
  · exact young n key record own ⟨backend, by rwa [kept] at same, aged⟩

theorem Balanced.unharmed {trace : List (Moment Tables)}
    (balanced : Balanced clean issued (before :: rest) s)
    (manages : before.Manages after s t trace) (spared : Spared clean before trace) :
    Unharmed clean rest s t := by
  intro lock member isClean intact n key holds
  obtain ⟨selfClean, young⟩ := spared _ isClean
  obtain ⟨record, found, mine⟩ := intact n key holds
  have foreign : record.owner ≠ before.owner.token := by
    rw [mine]
    exact balanced.foreign lock member
  have whole := balanced.intact before List.mem_cons_self selfClean
  rcases manages.spares whole n key record found foreign with kept | stale
  · exact ⟨record, kept, mine⟩
  · exact absurd stale (young n key record mine)

end TransactionKit
