import TransactionKit.Proofs.Transaction.Standing

/-!
What a user of a transaction lock may hold while it acquires a key. A user makes a lock of its own
and then locks and releases it as it likes, with as many attempts as it likes (`LockPlan`). What it
may hold can be told from its exchanges (`MayHold`): a key is added by an insertion, and it is gone
once something else is read under it or its record is removed. The keys are acquired in ascending
order and given back before the next attempt, so unless a release fails, a user that is about to
acquire a key can only hold smaller ones (`LockUser.Tries.above`).
-/

namespace TransactionKit

open Routine

/-! ## Users of locks -/

/-- What a user does with its lock, each time according to what came of it before. -/
inductive LockPlan where
  | stop
  | lock (rounds : Nat) (timeout? : Option Timeout) (next : Except Error Unit → LockPlan)
  | release (next : LockPlan)

/-- How a plan is carried out. -/
def LockPlan.routine : LockPlan → TransactionLock → Routine Unit
  | stop, _ => return ()
  | lock rounds timeout? next, this => do
    let (answer, after) ← this.lockWithin rounds timeout?
    (next answer).routine after
  | release next, this => do
    let after ← this.release
    next.routine after

/-- A user of a lock on some keys. -/
structure LockUser where
  objects : List (LockKey × Option Entity)
  owner : Owner
  relaxed : Bool
  plan : LockPlan

namespace LockUser

/-- All that a user does. -/
def routine (backend : Backend) (user : LockUser) : Routine Unit :=
  user.plan.routine (.ofObjects backend user.owner user.relaxed user.objects)

/-- After its exchanges a user is trying to acquire a key: it has begun to acquire the key, and the
next call belongs to that. -/
def Tries (backend : Backend) (user : LockUser) (past : List Exchange) (key : LockKey) : Prop :=
  ∃ attempts deadline rounds c next, (user.routine backend).Within
    (TransactionLock.acquireKey attempts backend user.owner deadline key rounds) past (.call c next)

/-- Among the exchanges of a user is a release that failed. -/
def ReleaseFailed (backend : Backend) (user : LockUser) (past : List Exchange) : Prop :=
  ∃ later earlier key e, past = later ++ earlier ∧
    (user.routine backend).Within (backend.release key user.owner) earlier (.done (.error e))

end LockUser

/-- Whatever a plan does with a lock, it inserts records for the owner of the lock only. -/
theorem LockPlan.conducts_locksFor {plan : LockPlan} {this : TransactionLock} {token : String}
    {past : List Exchange} (standing : this.Standing) (own : this.owner.token = token) :
    Conducts (fun _ c => c.LocksFor token) (fun _ _ => True) past (plan.routine this) := by
  induction plan generalizing this past with
  | stop => trivial
  | lock rounds timeout? next hypothesis =>
      have only : Only (Call.LocksFor token) (this.lockWithin rounds timeout?) :=
        own ▸ this.only_lockWithin rounds timeout?
      refine (only.conducts.returns (standing.returns_lockWithin rounds timeout?)).bind ?_
      rintro past ⟨answer, after⟩ ⟨-, follows, -⟩
      exact hypothesis answer follows.standing (follows.owner ▸ own)
  | release next hypothesis =>
      refine (this.only_release.conducts.returns standing.returns_release).bind ?_
      rintro past _ ⟨-, rfl⟩
      exact hypothesis this.standing_finished own

/-! ## What exchanges tell about the records of an owner -/

/-- A record of the owner is inserted under a key. -/
def Exchange.Inserts (token : String) (key : LockKey) : Exchange → Prop
  | ⟨.create _ record, answer⟩ => answer = .ok true ∧ record.key = key ∧ record.owner = token
  | _ => False

/-- The owner has no record under a key: something else was read there, or a record of the owner
would have been removed. -/
def Exchange.Clears (token : String) (key : LockKey) : Exchange → Prop
  | ⟨.read _ other, answer⟩ => other = key ∧
    ∃ found?, answer = .ok found? ∧ ∀ record, found? = some record → record.owner ≠ token
  | ⟨.remove _ other owner?, answer⟩ => other = key ∧
    owner?.all (· == token) = true ∧ ∃ removed, answer = .ok removed
  | _ => False

/-- A record could not be read or removed. -/
def Exchange.failed : Exchange → Bool
  | ⟨.read .., .error _⟩ => true
  | ⟨.remove .., .error _⟩ => true
  | _ => false

/-- As far as an owner can tell from its exchanges it may have a record under a key. -/
inductive MayHold (token : String) (key : LockKey) : List Exchange → Prop where
  | inserted {exchange : Exchange} {past : List Exchange} (inserts : exchange.Inserts token key) :
      MayHold token key (exchange :: past)
  | kept {exchange : Exchange} {past : List Exchange} (before : MayHold token key past)
      (uncleared : ¬ exchange.Clears token key) : MayHold token key (exchange :: past)

variable {token : String} {key : LockKey} {past : List Exchange} {exchange : Exchange}

theorem MayHold.of_cons (after : MayHold token key (exchange :: past))
    (quiet : ¬ exchange.Inserts token key) :
    MayHold token key past ∧ ¬ exchange.Clears token key := by
  cases after with
  | inserted inserts => exact absurd inserts quiet
  | kept before uncleared => exact ⟨before, uncleared⟩

/-- A call that neither announces a key nor inserts a record. -/
def Call.Quiet : Call → Prop
  | .request .. | .create .. => False
  | .read .. | .remove .. | .now | .sleep _ => True
  | .connect _ | .commit _ | .rollback _ | .close _ => True

theorem Call.Quiet.not_inserts {c : Call} (quiet : c.Quiet) (answer : c.Answer) :
    ¬ (Exchange.mk c answer).Inserts token key := by
  cases c with
  | create => exact absurd quiet id
  | _ => exact id

theorem Backend.only_evictStale (backend : Backend) (key : LockKey) :
    Only Call.Quiet (backend.evictStale key) := by
  refine ⟨trivial, fun answer => ?_⟩
  match answer with
  | .error e => trivial
  | .ok none => trivial
  | .ok (some record) =>
      have clock : Only Call.Quiet Routine.now := ⟨trivial, fun _ => trivial⟩
      refine clock.bind fun moment => ?_
      split
      · exact ⟨trivial, fun removed => by cases removed <;> trivial⟩
      · trivial

/-! ## Acquiring one key -/

/-- Every key that the owner may hold is among some. -/
def HoldsAmong (token : String) (among : LockKey → Prop) (past : List Exchange) : Prop :=
  ∀ key, MayHold token key past → among key

/-- What is held is as before, or it is the key that has been acquired. -/
def HoldsAlso (token : String) (among : LockKey → Prop) (key : LockKey) (acquired : Prop)
    (past : List Exchange) : Prop :=
  HoldsAmong token (fun other => among other ∨ acquired ∧ other = key) past

/-- A call in the acquisition of a key: the owner holds no more than before, and no other key is
announced. -/
def SeeksAmong (token : String) (key : LockKey) (among : LockKey → Prop) (past : List Exchange)
    (c : Call) : Prop :=
  HoldsAmong token among past ∧ ∀ target other, c = .request target other → other = key

section Acquisition

variable {α : Type} {among : LockKey → Prop} {backend : Backend} {owner : Owner}
  {deadline : Deadline} {acquired gained : Prop}

theorem HoldsAmong.mono {wider : LockKey → Prop} (held : HoldsAmong token among past)
    (widen : ∀ key, among key → wider key) : HoldsAmong token wider past := by
  intro key holds
  exact widen key (held key holds)

theorem HoldsAmong.cons (held : HoldsAmong token among past)
    (quiet : ∀ key, ¬ exchange.Inserts token key) : HoldsAmong token among (exchange :: past) := by
  intro key holds
  exact held key (holds.of_cons (quiet key)).1

theorem HoldsAmong.also (held : HoldsAmong token among past) :
    HoldsAlso token among key acquired past :=
  held.mono fun _ => .inl

theorem HoldsAlso.imp (held : HoldsAlso token among key acquired past)
    (implies : acquired → gained) : HoldsAlso token among key gained past :=
  HoldsAmong.mono held fun _ old => old.imp_right fun new => ⟨implies new.1, new.2⟩

theorem HoldsAlso.of_not (held : HoldsAlso token among key acquired past) (failed : ¬ acquired) :
    HoldsAmong token among past :=
  HoldsAmong.mono held fun _ old => old.resolve_right fun new => failed new.1

/-- Quiet calls add nothing to what is held. -/
theorem conducts_of_quiet {r : Routine α} (quiet : Only Call.Quiet r)
    (held : HoldsAmong token among past) :
    Conducts (SeeksAmong token key among) (fun past _ => HoldsAmong token among past) past r := by
  induction r generalizing past with
  | done a => exact held
  | call c next hypothesis =>
      refine ⟨⟨held, ?_⟩, ?_⟩
      · rintro target other rfl
        exact absurd quiet.1 id
      · intro answer
        exact hypothesis answer (quiet.2 answer) (held.cons fun _ => quiet.1.not_inserts answer)
  | starved => trivial

theorem conducts_attempt (held : HoldsAmong owner.token among past) :
    Conducts (SeeksAmong owner.token key among)
      (fun past attempt => HoldsAlso owner.token among key (attempt = .acquired) past)
      past (backend.attempt key owner) := by
  refine ⟨⟨held, by simp⟩, fun moment => ?_⟩
  have held : HoldsAmong owner.token among (⟨.now, moment⟩ :: past) := held.cons fun _ => id
  refine ⟨⟨held, by simp⟩, fun answer => ?_⟩
  -- the insertion is the only call that adds a key, and then it is the last one
  have inserted : HoldsAlso owner.token among key (answer = .ok true)
      (⟨.create backend (Record.of key owner moment), answer⟩ :: ⟨.now, moment⟩ :: past) := by
    intro other holds
    cases holds with
    | inserted inserts => exact .inr ⟨inserts.1, inserts.2.1.symm⟩
    | kept before _ => exact .inl (held other before)
  match answer with
  | .error e => exact (inserted.of_not (by simp)).also
  | .ok true => exact inserted.imp fun _ => rfl
  | .ok false =>
      have held := inserted.of_not (by simp)
      refine (conducts_of_quiet (backend.only_evictStale key) held).bind fun past evicted held => ?_
      match evicted with
      | .ok (some record) => exact held.also
      | .ok none => exact held.also
      | .error e => exact held.also

/-- What follows an attempt that has failed: the end at the deadline, or a pause and then more. -/
theorem conducts_retry {yields : List Exchange → α → Prop} {result : α} {again : Routine α}
    {nanos : Nat} (held : HoldsAmong token among past)
    (late : ∀ past, HoldsAmong token among past → yields past result)
    (later : ∀ past, HoldsAmong token among past →
      Conducts (SeeksAmong token key among) yields past again) :
    Conducts (SeeksAmong token key among) yields past
      (deadline.expired >>= fun expired =>
        if expired then .done result else deadline.pause nanos >>= fun _ => again) := by
  refine (conducts_of_quiet (deadline.only_expired trivial) held).bind fun past expired held => ?_
  cases expired with
  | true => exact late past held
  | false =>
      have quiet : Only Call.Quiet (deadline.pause nanos) :=
        deadline.only_pause trivial (fun _ => trivial) nanos
      exact (conducts_of_quiet quiet held).bind fun past _ held => later past held

theorem conducts_poll (rounds : Nat) (held : HoldsAmong owner.token among past) :
    Conducts (SeeksAmong owner.token key among)
      (fun past answer => HoldsAlso owner.token among key (answer = .ok ()) past)
      past (backend.poll key owner deadline rounds) := by
  induction rounds generalizing past with
  | zero => trivial
  | succ rounds hypothesis =>
      refine (conducts_attempt held).bind fun past attempt held => ?_
      cases attempt with
      | acquired => exact held.imp fun _ => rfl
      | evicted => exact hypothesis (held.of_not (by simp))
      | refused =>
          exact conducts_retry (held.of_not (by simp)) (fun past held => held.also)
            fun past held => hypothesis held

theorem conducts_lock {attempts : Nat} {timeout : Timeout}
    (held : HoldsAmong owner.token among past) :
    Conducts (SeeksAmong owner.token key among)
      (fun past answer => HoldsAlso owner.token among key (answer = .ok ()) past)
      past (backend.lock attempts key owner timeout) := by
  refine ⟨⟨held, by simp⟩, fun granted => ?_⟩
  have held : HoldsAmong owner.token among (⟨.request backend key, granted⟩ :: past) :=
    held.cons fun _ => id
  cases granted with
  | error e => exact held.also
  | ok _ =>
      refine (conducts_of_quiet (Deadline.only_after trivial timeout) held).bind ?_
      intro past deadline held
      exact conducts_poll attempts held

/-- While a key is being acquired nothing is added to what is held. -/
theorem conducts_acquireKey {attempts : Nat} (rounds : Nat)
    (held : HoldsAmong owner.token among past) :
    Conducts (SeeksAmong owner.token key among)
      (fun past got => HoldsAlso owner.token among key (got = true) past)
      past (TransactionLock.acquireKey attempts backend owner deadline key rounds) := by
  induction rounds generalizing past with
  | zero => trivial
  | succ rounds hypothesis =>
      refine (conducts_of_quiet (deadline.only_remaining trivial) held).bind ?_
      intro past timeout held
      refine (conducts_lock held).bind fun past answer held => ?_
      cases answer with
      | ok _ => exact held.imp fun _ => rfl
      | error e =>
          exact conducts_retry (held.of_not (by simp)) (fun past held => held.also)
            fun past held => hypothesis held

/-- Keys that are acquired in ascending order are announced above all that are held. -/
theorem conducts_acquireKeys {rounds : Nat} {acquired keys : List LockKey}
    (ascending : (acquired ++ keys).Pairwise (· < ·))
    (held : HoldsAmong owner.token (· ∈ acquired) past) :
    Conducts
      (fun past c => ∀ target key, c = .request target key → HoldsAmong owner.token (· < key) past)
      (fun past result => HoldsAmong owner.token (· ∈ result.2) past)
      past (TransactionLock.acquireKeys rounds backend owner deadline acquired keys) := by
  induction keys generalizing acquired past with
  | nil => exact held
  | cons key rest hypothesis =>
      have above : ∀ before ∈ acquired, before < key := by
        intro before old
        exact (List.pairwise_append.mp ascending).2.2 before old key List.mem_cons_self
      refine ((conducts_acquireKey rounds held).permit ?_).bind fun past got held => ?_
      · rintro past c ⟨held, own⟩ target other rfl
        obtain rfl := own target other rfl
        exact held.mono above
      · cases got with
        | false => exact held.of_not (by simp)
        | true =>
            refine hypothesis (by simpa using ascending) (HoldsAmong.mono held ?_)
            rintro other (old | ⟨-, rfl⟩)
            · exact List.mem_append_left _ old
            · exact List.mem_append_right _ List.mem_cons_self

end Acquisition

/-! ## Giving keys back -/

/-- A key that the owner might hold, other than one that is given back. -/
def HeldBesides (token : String) (key : LockKey) (past : List Exchange) (other : LockKey) : Prop :=
  MayHold token other past ∧ other ≠ key

/-- What clears a key leaves the others as they are. -/
theorem holdsAmong_of_clears (quiet : ∀ other, ¬ exchange.Inserts token other)
    (clears : exchange.Clears token key) :
    HoldsAmong token (HeldBesides token key past) (exchange :: past) := by
  intro other holds
  obtain ⟨before, uncleared⟩ := holds.of_cons (quiet other)
  refine ⟨before, ?_⟩
  rintro rfl
  exact uncleared clears

/-- A release fails with its last exchange. After any other one the owner does not hold the key, nor
more than before. -/
theorem conducts_release (backend : Backend) (owner : Owner) (key : LockKey) :
    Conducts (fun _ c => c.Quiet)
      (fun after result =>
        (∃ e last before, result = .error e ∧ after = last :: before ∧ last.failed = true) ∨
          (∀ e, result ≠ .error e) ∧
            HoldsAmong owner.token (HeldBesides owner.token key past) after)
      past (backend.release key owner) := by
  unfold Backend.release
  refine Conducts.ask_bind trivial fun answer => ?_
  match answer with
  | .error e => exact conducts_done.mpr (.inl ⟨e, _, _, rfl, rfl, rfl⟩)
  | .ok none =>
      refine conducts_done.mpr (.inr ⟨by simp, ?_⟩)
      exact holdsAmong_of_clears (fun _ => id) ⟨rfl, none, rfl, by simp⟩
  | .ok (some record) =>
      by_cases own : record.owner = owner.token
      · simp only [own, if_true]
        refine ⟨trivial, fun removed => conducts_done.mpr ?_⟩
        match removed with
        | .error e => exact .inl ⟨e, _, _, rfl, rfl, rfl⟩
        | .ok removed =>
            refine .inr ⟨by simp, ?_⟩
            have gone (earlier : List Exchange) :
                HoldsAmong owner.token (HeldBesides owner.token key earlier)
                  (⟨.remove backend key (some owner.token), .ok removed⟩ :: earlier) :=
              holdsAmong_of_clears (fun _ => id) ⟨rfl, by simp, removed, rfl⟩
            refine (gone _).mono ?_
            rintro other ⟨before, distinct⟩
            exact ⟨(before.of_cons id).1, distinct⟩
      · -- the record of another owner tells that the key is not held, whether it is removed or not
        have gone : HoldsAmong owner.token (HeldBesides owner.token key past)
            (⟨.read backend key, .ok (some record)⟩ :: past) :=
          holdsAmong_of_clears (fun _ => id) ⟨rfl, some record, rfl, by simpa using own⟩
        by_cases lenient : backend.config.ignoreLockOwner = true
        · simp only [own, lenient, if_true, if_false]
          refine ⟨trivial, fun removed => conducts_done.mpr ?_⟩
          match removed with
          | .error e => exact .inl ⟨e, _, _, rfl, rfl, rfl⟩
          | .ok removed => exact .inr ⟨by simp, gone.cons fun _ => id⟩
        · simp only [own, lenient, if_false]
          exact conducts_done.mpr (.inr ⟨by simp, gone⟩)

/-! ## A whole user -/

namespace LockUser

variable {α : Type} {backend : Backend} {user : LockUser}

/-- A user announces a key only if it can only hold smaller ones, unless one of its releases has
failed. -/
def Ascends (backend : Backend) (user : LockUser) (past : List Exchange) (c : Call) : Prop :=
  ∀ target key, c = .request target key →
    user.ReleaseFailed backend past ∨ HoldsAmong user.owner.token (· < key) past

theorem ReleaseFailed.later (failed : user.ReleaseFailed backend past) (more : List Exchange) :
    user.ReleaseFailed backend (more ++ past) := by
  obtain ⟨later, earlier, key, e, rfl, within⟩ := failed
  exact ⟨more ++ later, earlier, key, e, by simp, within⟩

theorem ReleaseFailed.exists_failed (failed : user.ReleaseFailed backend past) :
    ∃ later last before, past = later ++ last :: before ∧ last.failed = true ∧
      ∀ more, user.ReleaseFailed backend (more ++ last :: before) := by
  obtain ⟨later, earlier, key, e, rfl, within⟩ := failed
  have here := within
  obtain ⟨prior, during, f, rfl, -, releasing⟩ := here
  have release : Conducts _ _ prior _ := conducts_release backend user.owner key
  rcases release.leads releasing with ⟨_, last, before, -, same, failed⟩ | ⟨fine, -⟩
  · rw [same] at within ⊢
    exact ⟨later, last, before, rfl, failed, fun more => ⟨more, _, key, e, rfl, within⟩⟩
  · exact absurd rfl (fine e)

/-- No release fails by a look at the clock. -/
theorem ReleaseFailed.before_now {moment : Int}
    (failed : user.ReleaseFailed backend (⟨.now, moment⟩ :: past)) :
    user.ReleaseFailed backend past := by
  obtain ⟨later, last, before, same, failed, still⟩ := failed.exists_failed
  cases later with
  | cons _ later =>
      cases same
      exact still later
  | nil =>
      cases same
      cases failed

/-- Once a release has failed nothing more is to be shown. -/
theorem conducts_of_failed {r : Routine α} (failed : user.ReleaseFailed backend past) :
    Conducts (user.Ascends backend) (fun past _ => user.ReleaseFailed backend past) past r := by
  induction r generalizing past with
  | done a => exact failed
  | call c next hypothesis =>
      exact ⟨fun _ _ _ => .inl failed, fun answer => hypothesis answer (failed.later [_])⟩
  | starved => trivial

theorem ascends_of_quiet {c : Call} (quiet : c.Quiet) : user.Ascends backend past c := by
  rintro target key rfl
  exact absurd quiet id

/-- When keys are given back, either a release fails or none of them is held any more. -/
theorem conducts_releaseKeys {keys : List LockKey} {f : Unit → Routine Unit}
    (held : HoldsAmong user.owner.token (· ∈ keys) past)
    (here : Leads (user.routine backend) past
      (TransactionLock.releaseKeys backend user.owner keys >>= f)) :
    Conducts (user.Ascends backend)
      (fun past _ => user.ReleaseFailed backend past ∨
        HoldsAmong user.owner.token (fun _ => False) past)
      past (TransactionLock.releaseKeys backend user.owner keys) := by
  induction keys generalizing past with
  | nil => exact .inr (held.mono fun _ => List.not_mem_nil)
  | cons key rest hypothesis =>
      have release : Conducts (user.Ascends backend) _ past _ :=
        (conducts_release backend user.owner key).permit fun _ _ => ascends_of_quiet
      refine release.bind_at fun during result ended outcome => ?_
      have here : Leads (user.routine backend) past (backend.release key user.owner >>= fun _ =>
          TransactionLock.releaseKeys backend user.owner rest >>= f) := by
        simpa [TransactionLock.releaseKeys] using here
      rcases outcome with ⟨e, _, _, rfl, -⟩ | ⟨-, gone⟩
      · have failed : user.ReleaseFailed backend (during ++ past) :=
          ⟨[], _, key, e, rfl, past, during, _, rfl, here, ended⟩
        exact (conducts_of_failed failed).mono fun _ _ => .inl
      · refine hypothesis (HoldsAmong.mono gone ?_) (here.after ended)
        rintro other ⟨before, distinct⟩
        exact (List.mem_cons.mp (held other before)).resolve_left distinct

/-- The lock of a user at some point. -/
structure Has (backend : Backend) (user : LockUser) (this : TransactionLock) : Prop where
  standing : this.Standing
  owner : this.owner = user.owner
  backend? : ∀ own, this.backend? = some own → own = backend

theorem Has.follows {this after : TransactionLock} (has : user.Has backend this)
    (follows : this.Follows after) : user.Has backend after where
  standing := follows.standing
  owner := follows.owner.trans has.owner
  backend? := by
    intro own after
    rcases follows.backend? with none | same
    · rw [none] at after
      cases after
    · exact has.backend? own (same.symm.trans after)

/-- Whatever an attempt to lock comes to, what the owner may hold afterwards counts as acquired. -/
theorem Has.conducts_lock {this : TransactionLock} {rounds : Nat} {timeout : Timeout}
    {f : Except Error Unit × TransactionLock → Routine Unit} (has : user.Has backend this)
    (held : HoldsAmong user.owner.token (· ∈ this.acquired) past)
    (here : Leads (user.routine backend) past (this.lock rounds timeout >>= f)) :
    Conducts (user.Ascends backend)
      (fun past result => user.ReleaseFailed backend past ∨
        HoldsAmong user.owner.token (· ∈ result.2.acquired) past)
      past (this.lock rounds timeout) := by
  obtain ⟨standing, owner, own⟩ := has
  cases standing with
  | locked => exact .inr held
  | released => exact .inr held
  | created objects table holder relaxed =>
      obtain rfl : holder = user.owner := owner
      obtain rfl : table = backend := own _ rfl
      have clock : Conducts (user.Ascends table)
          (fun past _ => HoldsAmong user.owner.token (· ∈ ([] : List LockKey)) past)
          past (Deadline.after timeout) := by
        cases timeout with
        | never => exact held
        | after nanos => exact ⟨ascends_of_quiet trivial, fun moment => held.cons fun _ => id⟩
      simp only [TransactionLock.lock, bind_assoc] at here ⊢
      refine clock.bind_at fun waited deadline started held => ?_
      have ascending : ([] ++ objects.keys).Pairwise (· < ·) := objects.ascending_keys
      refine ((conducts_acquireKeys ascending held).permit ?_).bind_at
        fun during (complete, acquired) ended held => ?_
      · exact fun past c above target key same => .inr (above target key same)
      cases complete with
      | true => exact .inr held
      | false =>
          have here := (here.after started).after ended
          simp only [bind_assoc, if_false, Bool.false_eq_true] at here ⊢
          refine (conducts_releaseKeys ?_ here).bind fun past _ outcome => ?_
          · exact held.mono fun _ => List.mem_reverse.mpr
          · exact outcome.imp_right fun none => none.mono fun _ => False.elim

theorem Has.conducts_lockWithin {this : TransactionLock} {rounds : Nat} {timeout? : Option Timeout}
    {f : Except Error Unit × TransactionLock → Routine Unit} (has : user.Has backend this)
    (held : HoldsAmong user.owner.token (· ∈ this.acquired) past)
    (here : Leads (user.routine backend) past (this.lockWithin rounds timeout? >>= f)) :
    Conducts (user.Ascends backend)
      (fun past result => user.ReleaseFailed backend past ∨
        HoldsAmong user.owner.token (· ∈ result.2.acquired) past)
      past (this.lockWithin rounds timeout?) := by
  cases timeout? with
  | some timeout => exact has.conducts_lock held here
  | none =>
      simp only [TransactionLock.lockWithin, TransactionLock.lockDefault] at here ⊢
      split
      · rename_i timeout found
        rw [found] at here
        exact has.conducts_lock held here
      · exact .inr held

theorem Has.conducts_release {this : TransactionLock} {f : TransactionLock → Routine Unit}
    (has : user.Has backend this) (held : HoldsAmong user.owner.token (· ∈ this.acquired) past)
    (here : Leads (user.routine backend) past (this.release >>= f)) :
    Conducts (user.Ascends backend)
      (fun past after => user.ReleaseFailed backend past ∨
        HoldsAmong user.owner.token (· ∈ after.acquired) past)
      past this.release := by
  obtain ⟨standing, owner, same⟩ := has
  rw [standing.release_eq, bind_assoc] at here
  rw [standing.release_eq]
  have give : Conducts (user.Ascends backend)
      (fun past _ => user.ReleaseFailed backend past ∨
        HoldsAmong user.owner.token (fun _ => False) past) past this.giveBack := by
    unfold TransactionLock.giveBack at here ⊢
    cases table : this.backend? with
    | none =>
        have empty : this.acquired = [] := by cases standing <;> simp_all
        rw [empty] at held
        exact .inr (held.mono fun _ => List.not_mem_nil)
    | some own =>
        obtain rfl := same own table
        rw [table, owner] at here
        rw [owner]
        exact conducts_releaseKeys (held.mono fun _ => List.mem_reverse.mpr) here
  refine give.bind fun past _ outcome => ?_
  exact outcome.imp_right fun none => none.mono fun _ => False.elim

theorem Has.conducts_routine {plan : LockPlan} {this : TransactionLock}
    (has : user.Has backend this)
    (held : user.ReleaseFailed backend past ∨ HoldsAmong user.owner.token (· ∈ this.acquired) past)
    (here : Leads (user.routine backend) past (plan.routine this)) :
    Conducts (user.Ascends backend) (fun _ _ => True) past (plan.routine this) := by
  induction plan generalizing past this with
  | stop => trivial
  | lock rounds timeout? next hypothesis =>
      rcases held with failed | held
      · exact (conducts_of_failed failed).mono fun _ _ _ => trivial
      · have attempt := (has.conducts_lockWithin held here).returns
          (has.standing.returns_lockWithin rounds timeout?)
        refine attempt.bind_at fun during (answer, after) ended ⟨held, follows, _⟩ => ?_
        exact hypothesis answer (has.follows follows) held (here.after ended)
  | release next hypothesis =>
      rcases held with failed | held
      · exact (conducts_of_failed failed).mono fun _ _ _ => trivial
      · have release := (has.conducts_release held here).returns has.standing.returns_release
        refine release.bind_at fun during after ended ⟨held, last⟩ => ?_
        have follows : this.Follows after := last ▸ this.follows_finished
        exact hypothesis (has.follows follows) held (here.after ended)

theorem conducts_locksFor (backend : Backend) (user : LockUser) :
    Conducts (fun _ c => c.LocksFor user.owner.token) (fun _ _ => True) [] (user.routine backend) :=
  LockPlan.conducts_locksFor (TransactionLock.standing_ofObjects ..) rfl

/-- A user that locks at once asks for its keys in ascending order. -/
theorem routine_eq_of_lock {rounds : Nat} {timeout : Timeout} {next : Except Error Unit → LockPlan}
    (plan : user.plan = .lock rounds (some timeout) next) (backend : Backend) :
    ∃ f : Bool × List LockKey → Routine Unit, user.routine backend =
      Deadline.after timeout >>= fun deadline =>
        TransactionLock.acquireKeys rounds backend user.owner deadline []
          (SortedMap.ofList user.objects).keys >>= f := by
  refine ⟨?_, ?_⟩
  rotate_left
  · rw [LockUser.routine, plan]
    simp only [LockPlan.routine, TransactionLock.lockWithin, TransactionLock.ofObjects,
      TransactionLock.lock, bind_assoc]
    rfl

/-- A user announces keys in ascending order, whatever it does and whatever is answered. -/
theorem conducts_ascends (backend : Backend) (user : LockUser) :
    Conducts (user.Ascends backend) (fun _ _ => True) [] (user.routine backend) := by
  have has : user.Has backend (.ofObjects backend user.owner user.relaxed user.objects) :=
    ⟨TransactionLock.standing_ofObjects .., rfl, fun own same => by cases same; rfl⟩
  refine has.conducts_routine (.inr ?_) (.refl _)
  intro key holds
  cases holds

/-- While a user whose releases have not failed is trying to acquire a key, it can only hold smaller
ones. -/
theorem Tries.above (tries : user.Tries backend past key)
    (reliable : ¬ user.ReleaseFailed backend past) :
    HoldsAmong user.owner.token (· < key) past := by
  obtain ⟨attempts, deadline, rounds, c, next, prior, during, f, rfl, here, amid⟩ := tries
  have reliable : ¬ user.ReleaseFailed backend prior := fun failed =>
    reliable (failed.later during)
  have conduct := (conducts_ascends backend user).leads here
  rw [List.append_nil] at conduct
  -- after at most one look at the clock the key is announced, so nothing greater is held before it
  have start : HoldsAmong user.owner.token (· < key) prior := by
    cases rounds with
    | zero =>
        have silent : Conducts (fun _ _ => False) (fun _ _ => True) prior
            (TransactionLock.acquireKey attempts backend user.owner deadline key 0) := trivial
        exact absurd (silent.leads amid).1 id
    | succ rounds =>
        obtain ⟨moment?⟩ := deadline
        cases moment? with
        | none => exact (conduct.1 backend key rfl).resolve_left reliable
        | some moment =>
            have announced := ((conduct.2 moment).1 backend key rfl).resolve_left fun failed =>
              reliable failed.before_now
            intro other holds
            exact announced other (.kept holds id)
  exact ((conducts_acquireKey rounds start).leads amid).1.1

end LockUser

end TransactionKit
