import TransactionKit.Proofs.Lock.Patience
import TransactionKit.Proofs.Transaction.Gathering
import TransactionKit.Proofs.Transaction.Validity

/-!
All keys or none. While a lock is acquired any access may fail, and others come in after every call
but the reads and the looks at the clock, so that an eviction removes the record that it has found
(`contested`). A record that is removed is one of the owner, or it was stale: during the acquisition
an eviction has found it so (`removesFairly_evictStale`), and what is given back afterwards are the
owner's records (`removesFairly_releaseKeys`). A lock that times out is as before, and its owner is
without a record, so everything holds again for the next attempt: `Retried.lock_all_or_nothing`.
-/

namespace TransactionKit

open Routine Tables

/-- A call after which others may act. Reading a record, judging its age and removing it belong
together. -/
def Call.Interruptible : Call → Prop
  | .read .. | .now => False
  | _ => True

/-- One owner and no other. -/
def soleOwner (token : String) (other : String) : Prop :=
  other = token

theorem soleOwner_self (token : String) : soleOwner token token :=
  rfl

/-- Accesses may fail, and others leave the records of one owner alone. -/
def Tables.contested (token : String) : Environment Tables :=
  visited (soleOwner token) Call.Interruptible faltering

namespace Tables

/-- Every record that is removed belongs to the owner, or it was stale before. -/
def RemovesFairly (backend : Backend) (token : String) (trace : List (Moment Tables)) : Prop :=
  ∀ before moment after, trace = before ++ moment :: after →
    ∀ target key owner? record, moment.exchange = ⟨.remove target key owner?, .ok true⟩ →
      moment.state.read target.id key = some record →
      record.owner = token ∨ AgedIn backend before target.id key record

variable {α : Type} {backend : Backend} {token : String} {s t : Tables}
  {trace first second : List (Moment Tables)}

theorem removesFairly_nil : RemovesFairly backend token [] := by
  intro before moment after split
  simp at split

/-- One more call, which may remove a record of the owner or one that was stale before. -/
theorem RemovesFairly.concat {moment : Moment Tables} (fair : RemovesFairly backend token first)
    (last : ∀ target key owner? record, moment.exchange = ⟨.remove target key owner?, .ok true⟩ →
      moment.state.read target.id key = some record →
      record.owner = token ∨ AgedIn backend first target.id key record) :
    RemovesFairly backend token (first ++ [moment]) := by
  intro before other after split target key owner? record removes found
  rcases List.eq_nil_or_concat after with rfl | ⟨between, final, rfl⟩
  · obtain ⟨rfl, same⟩ := List.append_inj' split rfl
    cases same
    exact last target key owner? record removes found
  · rw [List.concat_eq_append, ← List.cons_append, ← List.append_assoc] at split
    obtain ⟨rfl, -⟩ := List.append_inj' split rfl
    exact fair before other between rfl target key owner? record removes found

/-- One more call that removes nothing. -/
theorem RemovesFairly.keep {moment : Moment Tables} (fair : RemovesFairly backend token first)
    (other : ∀ target key owner?, moment.exchange.call ≠ .remove target key owner?) :
    RemovesFairly backend token (first ++ [moment]) := by
  apply fair.concat
  intro target key owner? record removes
  exact absurd (congrArg Exchange.call removes) (other target key owner?)

theorem RemovesFairly.append (fair : RemovesFairly backend token first)
    (later : RemovesFairly backend token second) :
    RemovesFairly backend token (first ++ second) := by
  intro before moment after split target key owner? record removes found
  rcases List.append_eq_append_iff.mp split with ⟨between, rfl, inSecond⟩ | ⟨between, rfl, rest⟩
  · apply (later _ _ _ inSecond target key owner? record removes found).imp_right
    exact AgedIn.append_right
  · cases between with
    | nil =>
      apply (later [] moment after rest.symm target key owner? record removes found).imp_right
      rintro ⟨-, other, member, -⟩
      cases member
    | cons other between =>
      obtain ⟨rfl, -⟩ := List.cons.inj rest
      exact fair before moment between rfl target key owner? record removes found

/-- Where nothing is removed, nothing is removed unfairly. -/
theorem removesFairly_of_only {environment : Environment Tables} {r : Routine α} {a : α}
    (performed : Performs environment s r trace a t) (only : Only SparesRecords r) :
    RemovesFairly backend token trace := by
  induction performed with
  | done s a => exact removesFairly_nil
  | @call s u t c next answer trace a answered rest ih =>
    apply RemovesFairly.append (removesFairly_nil.keep _) (ih (only.2 answer))
    rintro target key owner? rfl
    exact only.1

/-! ## Evictions -/

/-- After some calls others do not act. -/
theorem faltering_of_contested {c : Call} {answer : c.Answer} (kept : ¬ c.Interruptible)
    (answered : contested token s c answer t) : faltering s c answer t := by
  obtain ⟨u, answered, rfl | ⟨interruptible, -⟩⟩ := answered
  · exact answered
  · exact absurd interruptible kept

/-- A record that was read is still there at the next call. -/
theorem contested_read {key : LockKey} {seen : Record}
    (answered : contested token s (.read backend key) (.ok (some seen)) t) :
    t.read backend.id key = some seen := by
  rcases faltering_of_contested id answered with ⟨same, unchanged⟩ | ⟨⟨e, failed⟩, -⟩
  · rw [read_eq_of_table unchanged]
    exact (Except.ok.inj same).symm
  · cases failed

theorem contested_now {clock : Int} (answered : contested token s .now clock t) :
    clock = s.time ∧ t.read = s.read := by
  rcases faltering_of_contested id answered with ⟨same, unchanged⟩ | ⟨failed, -⟩
  · exact ⟨same, read_eq_of_table unchanged⟩
  · exact failed.elim

/-- An eviction only removes the record that it has found stale. -/
theorem removesFairly_evictStale {key : LockKey} {answer : Except Error (Option Record)}
    (performed : Performs (contested token) s (backend.evictStale key) trace answer t) :
    RemovesFairly backend token trace := by
  obtain ⟨found?, u, rest, rfl, reading, goes⟩ := Backend.goes_evictStale performed
  have read : RemovesFairly backend token [⟨s, .read backend key, found?⟩] :=
    removesFairly_nil.keep (by simp)
  cases goes with
  | unread | vacant => exact read
  | fresh looking fresh => exact read.keep (by simp)
  | @stale seen u v t clock removed looking stale removing =>
    have present := contested_read reading
    obtain ⟨rfl, unchanged⟩ := contested_now looking
    have looked : RemovesFairly backend token
        [⟨s, .read backend key, .ok (some seen)⟩, ⟨u, .now, u.time⟩] := read.keep (by simp)
    apply looked.concat
    intro target other owner? record removes there
    cases removes
    rw [unchanged, present] at there
    cases there
    exact .inr ⟨rfl, _, .tail _ (.head _), present, stale⟩

theorem removesFairly_attempt {key : LockKey} {owner : Owner} {attempt : Backend.Attempt}
    (performed : Performs (contested token) s (backend.attempt key owner) trace attempt t) :
    RemovesFairly backend token trace := by
  obtain ⟨now, u, created, v, rest, rfl, -, -, goes⟩ := Backend.goes_attempt performed
  have begun : RemovesFairly backend token
      [⟨s, .now, now⟩, ⟨u, .create backend (Record.of key owner now), created⟩] :=
    (removesFairly_nil.keep (by simp)).keep (by simp)
  cases goes with
  | inserted | failed e => exact begun
  | evicted evicting => exact begun.append (removesFairly_evictStale evicting)
  | kept evicting => exact begun.append (removesFairly_evictStale evicting)

theorem acquisitionLaw_contested (backend : Backend) (key : LockKey) (owner : Owner)
    (token : String) :
    AcquisitionLaw (contested token) backend key owner
      (fun trace _ _ => RemovesFairly backend token trace)
      (fun _ trace _ _ => RemovesFairly backend token trace) where
  spares := removesFairly_of_only
  failed _ := Iff.rfl
  after := RemovesFairly.append
  attempts := removesFairly_attempt

/-! ## Giving back -/

/-- An execution without a failed access could take place where no access fails. -/
theorem performs_of_not_fails {mine : String → Prop} {exposed : Call → Prop} {r : Routine α} {a : α}
    (performed : Performs (visited mine exposed faltering) s r trace a t)
    (fine : ∀ moment ∈ trace, ¬ moment.exchange.Fails) :
    Performs (visited mine exposed answers) s r trace a t := by
  induction performed with
  | done s a => exact .done s a
  | call answered rest ih =>
    obtain ⟨fine, later⟩ := List.forall_mem_cons.mp fine
    apply Performs.call _ (ih later)
    obtain ⟨u, answered | ⟨failed, -⟩, ended⟩ := answered
    · exact ⟨u, answered, ended⟩
    · exact absurd failed fine

/-- The release of a key that belongs to the owner removes the owner's record. -/
theorem removesFairly_release {owner : Owner} {key : LockKey} {answer : Except Error Bool}
    (held : s.Held backend.id key owner.token)
    (performed : Performs (visited (soleOwner owner.token) Call.Interruptible answers) s
      (backend.release key owner) trace answer t) :
    RemovesFairly backend owner.token trace := by
  obtain ⟨record, found, own⟩ := held
  obtain ⟨found?, u, rest, rfl, ⟨v, ⟨rfl, same⟩, rfl | ⟨interruptible, -⟩⟩, performed⟩ :=
    performs_ask_bind_iff.mp performed
  · simp only [found, own, if_true] at performed
    obtain ⟨removed, w, rest, rfl, -, performed⟩ := performs_call_iff.mp performed
    obtain ⟨rfl, rfl, rfl⟩ := performs_done_iff.mp performed
    apply (removesFairly_nil.keep (by simp)).concat
    intro target other owner? gone removes there
    cases removes
    rw [read_eq_of_table same, found] at there
    cases there
    exact .inl own
  · exact interruptible.elim

end Tables

namespace TransactionLock

variable {backend : Backend} {owner : Owner} {s t : Tables} {trace : List (Moment Tables)}

/-- The release of keys that belong to the owner removes the owner's records only. -/
theorem removesFairly_releaseKeys {keys : List LockKey} (distinct : keys.Nodup)
    (held : ∀ key ∈ keys, s.Held backend.id key owner.token)
    (performed : Performs (visited (soleOwner owner.token) Call.Interruptible answers) s
      (releaseKeys backend owner keys) trace () t) : RemovesFairly backend owner.token trace := by
  induction keys generalizing s trace with
  | nil =>
    obtain ⟨rfl, -, -⟩ := performs_done_iff.mp performed
    exact removesFairly_nil
  | cons key rest ih =>
    obtain ⟨removed, u, first, second, rfl, releasing, performed⟩ := performs_bind_iff.mp performed
    obtain ⟨fresh, distinct⟩ := List.nodup_cons.mp distinct
    obtain ⟨first, others⟩ := List.forall_mem_cons.mp held
    apply (removesFairly_release first releasing).append
    apply ih distinct _ performed
    -- a release takes nothing of the owner's but what is under its key
    have vain := vain_release (releasing.mono visited_faltering)
    intro other member
    obtain ⟨record, found, own⟩ := others other member
    rcases vain.fate _ other record found with kept | lost
    · exact ⟨record, kept, own⟩
    · obtain ⟨-, rfl⟩ := lost own
      exact absurd member fresh

/-! ## Acquisition -/

theorem removesFairly_acquireKeys {token : String} {rounds : Nat} {deadline : Deadline}
    {acquired keys got : List LockKey} {complete : Bool}
    (performed : Performs (contested token) s
      (acquireKeys rounds backend owner deadline acquired keys) trace (complete, got) t) :
    RemovesFairly backend token trace := by
  induction keys generalizing s trace acquired with
  | nil =>
    obtain ⟨rfl, -, -⟩ := performs_done_iff.mp performed
    exact removesFairly_nil
  | cons key rest ih =>
    obtain ⟨one, u, first, second, rfl, acquiring, performed⟩ := performs_bind_iff.mp performed
    apply (law_of_acquireKey (acquisitionLaw_contested ..) acquiring).append
    cases one with
    | true => exact ih performed
    | false =>
      obtain ⟨rfl, -, -⟩ := performs_done_iff.mp performed
      exact removesFairly_nil

theorem removesFairly_acquisition {token : String} {this : TransactionLock} {rounds : Nat}
    {timeout : Timeout} {got : List LockKey} {complete : Bool}
    (performed : Performs (contested token) s (this.acquisition rounds timeout backend) trace
      (complete, got) t) : RemovesFairly backend token trace := by
  obtain ⟨deadline, u, first, second, rfl, starting, performed⟩ := performs_bind_iff.mp performed
  apply (removesFairly_of_only starting (Deadline.only_after trivial timeout)).append
  exact removesFairly_acquireKeys performed

section Patience

variable {first second : List (Moment Tables)} {rounds : Nat}

theorem rounds_le_of_starves_acquireKey {attempts : Nat} {moment : Int} {key : LockKey}
    (starved : Starves timely s (acquireKey attempts backend owner ⟨some moment⟩ key rounds)
      trace t) :
    min attempts rounds ≤ removals trace + backend.pauses (s.left moment) := by
  induction rounds generalizing s trace with
  | zero => simp
  | succ rounds ih =>
    obtain ⟨timeout, u, early, second, rfl, reading, starved⟩ :=
      (Deadline.ends_remaining _).starves_bind starved
    have looked := backend.pauses_mono (left_le moment (time_le reading))
    obtain rfl := performs_remaining reading
    rw [removals_append]
    rcases starves_bind_iff.mp starved with
      starved | ⟨answer, v, during, rest, rfl, locking, starved⟩
    · have inner := rounds_le_of_starves_lock starved
      omega
    · have tried := backend.pauses_mono (left_le moment (time_le locking))
      cases answer with
      | ok _ => exact absurd starved not_starves_done
      | error e =>
        obtain ⟨w, pausing, rest, rfl, starved, fewer⟩ := starves_retry starved
        have later := ih starved
        simp only [removals_append]
        omega

theorem rounds_le_of_starves_acquireKeys {moment : Int} {acquired keys : List LockKey}
    (starved : Starves timely s (acquireKeys rounds backend owner ⟨some moment⟩ acquired keys)
      trace t) : rounds ≤ removals trace + backend.pauses (s.left moment) := by
  induction keys generalizing s trace acquired with
  | nil => exact absurd starved not_starves_done
  | cons key rest ih =>
    rcases starves_bind_iff.mp starved with
      starved | ⟨got, u, first, second, rfl, acquiring, starved⟩
    · simpa using rounds_le_of_starves_acquireKey starved
    · have shorter := backend.pauses_mono (left_le moment (time_le acquiring))
      rw [removals_append]
      cases got with
      | true =>
        have later := ih starved
        omega
      | false => exact absurd starved not_starves_done

/-- The acquisition of several keys ends within as many rounds as there are records that it removes
and pauses that fit in the time it has. -/
theorem rounds_le_of_starves_lock {this : TransactionLock} {nanos : Nat}
    (created : this.state = .created) (backend? : this.backend? = some backend)
    (starved : Starves timely s (this.lock rounds (.after nanos)) trace t) :
    rounds ≤ removals trace + backend.pauses nanos := by
  rw [lock_eq created backend?] at starved
  rcases starves_bind_iff.mp starved with
    starved | ⟨⟨complete, got⟩, u, first, second, rfl, -, starved⟩
  · obtain ⟨now, u, rest, rfl, ⟨rfl, looked⟩, starved⟩ := starves_call_iff.mp starved
    have acquiring := rounds_le_of_starves_acquireKeys starved
    have fewer : backend.pauses (u.left (s.time + nanos)) ≤ backend.pauses nanos := by
      apply backend.pauses_mono
      unfold left
      omega
    simp only [removals, List.countP_cons] at acquiring ⊢
    omega
  · cases complete with
    | true => exact absurd starved not_starves_done
    | false =>
      have ends : (releaseKeys backend this.owner got.reverse).Ends := ends_releaseKeys ..
      obtain ⟨_, v, during, rest, rfl, -, starved⟩ := ends.starves_bind starved
      exact absurd starved not_starves_done

end Patience

/-! ## Attempts -/

/-- A created lock whose owner has no record in the table where it acquires. -/
structure Untouched (backend : Backend) (s : Tables) (this : TransactionLock) : Prop where
  standing : this.Standing
  created : this.state = .created
  backend? : this.backend? = some backend
  unrecorded : ∀ key, ¬ s.Held backend.id key this.owner.token

/-- When the acquisition of a lock has ended, no access fails any more. -/
def RollsBack (backend : Backend) (this : TransactionLock) (rounds : Nat) (timeout : Timeout)
    (s : Tables) (trace : List (Moment Tables)) : Prop :=
  ∃ complete got u first second, trace = first ++ second ∧
    Performs (contested this.owner.token) s (this.acquisition rounds timeout backend) first
      (complete, got) u ∧
    ∀ moment ∈ second, ¬ moment.exchange.Fails

/-- What an attempt comes to: the lock is locked and its owner has every key, or a timeout names all
keys in ascending order, the lock is as before and its owner has nothing. Other owners only lose
records that were stale. -/
structure AllOrNothing (backend : Backend) (this after : TransactionLock)
    (answer : Except Error Unit) (trace : List (Moment Tables)) (t : Tables) : Prop where
  outcome : (answer = .ok () ∧ after = { this with state := .locked, acquired := this.keys } ∧
      ∀ key ∈ this.keys, t.Held backend.id key this.owner.token) ∨
    answer = .error (.lockTimeout (this.keys.map LockKey.text)) ∧
      (this.keys.map LockKey.text).Pairwise (· < ·) ∧
      after = this ∧ after.state = .created ∧
      ∀ key, ¬ t.Held backend.id key this.owner.token
  fair : RemovesFairly backend this.owner.token trace

/-- A lock that was tried any number of times and has timed out each time, while others have changed
the records of other owners. -/
inductive Retried (backend : Backend) : Tables → TransactionLock → Prop where
  | first {s : Tables} {this : TransactionLock} (untouched : Untouched backend s this) :
      Retried backend s this
  | others {s t : Tables} {this : TransactionLock} (retried : Retried backend s this)
      (others : Others (soleOwner this.owner.token) s t) : Retried backend t this
  | again {s t : Tables} {this after : TransactionLock} {rounds nanos : Nat}
      {trace : List (Moment Tables)} {e : Error} (retried : Retried backend s this)
      (performed : Performs (contested this.owner.token) s (this.lock rounds (.after nanos)) trace
        (.error e, after) t)
      (rollsBack : RollsBack backend this rounds (.after nanos) s trace) : Retried backend t after

section Attempts

variable {this after : TransactionLock} {rounds : Nat} {timeout : Timeout}
  {answer : Except Error Unit}

/-- A lock that is acquired has nothing to give back. -/
theorem Untouched.rollsBack_of_ok (untouched : Untouched backend s this)
    (performed : Performs (contested this.owner.token) s (this.lock rounds timeout) trace
      (.ok (), after) t) : RollsBack backend this rounds timeout s trace := by
  obtain ⟨complete, got, u, first, second, rfl, acquiring, ended⟩ :=
    untouched.standing.performs_lock_split untouched.created untouched.backend? performed
  rcases ended with ⟨-, -, -, -, rfl, -⟩ | ⟨-, failed, -⟩
  · exact ⟨complete, got, u, first, [], rfl, acquiring, by simp⟩
  · cases failed

theorem Untouched.allOrNothing (untouched : Untouched backend s this)
    (performed : Performs (contested this.owner.token) s (this.lock rounds timeout) trace
      (answer, after) t)
    (rollsBack : RollsBack backend this rounds timeout s trace) :
    AllOrNothing backend this after answer trace t := by
  obtain ⟨standing, created, backend?, unrecorded⟩ := untouched
  obtain ⟨complete, got, u, first, second, rfl, acquiring, ended⟩ :=
    standing.performs_lock_split created backend? performed
  have own := soleOwner_self this.owner.token
  obtain ⟨-, part, changes, held⟩ := standing.collects_acquisition created own acquiring
  have fair := removesFairly_acquisition acquiring
  have distinct : this.keys.Nodup := nodup_keys this.objects
  rcases ended with ⟨-, rfl, rfl, rfl, rfl, rfl⟩ | ⟨-, rfl, rfl, releasing⟩
  · constructor
    · exact .inl ⟨rfl, rfl, held distinct (by simp)⟩
    · rwa [List.append_nil]
  · -- what follows the acquisition is the rollback, and nothing of it fails
    obtain ⟨_, _, _, check, rest, same, acquired, fine⟩ := rollsBack
    obtain ⟨rfl, -⟩ := acquiring.eq_of_append acquired same
    rw [← List.append_cancel_left same] at fine
    have safely := performs_of_not_fails releasing fine
    constructor
    · refine .inr ⟨rfl, List.pairwise_map.mpr after.objects.ascending_keys, rfl, created, ?_⟩
      rintro key ⟨record, found, same⟩
      have fades := fades_of_only (fun token => only_releaseKeys backend after.owner _) releasing
      rcases changes.origin _ key record (fades _ key record same found) with old | new
      · exact unrecorded key ⟨record, old, same⟩
      · have member := List.mem_reverse.mpr (new same).2.1
        exact not_held_of_releaseKeys own safely key member ⟨record, found, same⟩
    · apply fair.append
      apply removesFairly_releaseKeys _ _ safely
      · exact (List.reverse_perm got).nodup_iff.mpr (part.nodup distinct)
      · exact fun key member => held distinct (by simp) key (List.mem_reverse.mp member)

theorem Retried.untouched (retried : Retried backend s this) : Untouched backend s this := by
  induction retried with
  | first untouched => exact untouched
  | others retried others ih =>
    obtain ⟨standing, created, backend?, unrecorded⟩ := ih
    refine ⟨standing, created, backend?, ?_⟩
    exact fun key held => unrecorded key ((others.held_iff (soleOwner_self _)).mp held)
  | again retried performed rollsBack ih =>
    obtain ⟨outcome, -⟩ := ih.allOrNothing performed rollsBack
    rcases outcome with ⟨done, -⟩ | ⟨-, -, rfl, -, unrecorded⟩
    · cases done
    · exact ⟨ih.standing, ih.created, ih.backend?, unrecorded⟩

/-- However often a lock has timed out before, whatever fails before its acquisition has ended and
whatever others do to records of other owners, an attempt acquires all keys or none. It does come to
an end: it has no more rounds than there are evictions in it and pauses in the time that it has. -/
theorem Retried.lock_all_or_nothing (retried : Retried backend s this) :
    (∀ rounds nanos trace answer after t,
      Performs (contested this.owner.token) s (this.lock rounds (.after nanos)) trace
        (answer, after) t → RollsBack backend this rounds (.after nanos) s trace →
      AllOrNothing backend this after answer trace t) ∧
    ∀ rounds nanos trace t, Starves timely s (this.lock rounds (.after nanos)) trace t →
      rounds ≤ removals trace + backend.pauses nanos := by
  have untouched := retried.untouched
  constructor
  · intro rounds nanos trace answer after t performed rollsBack
    exact untouched.allOrNothing performed rollsBack
  · intro rounds nanos trace t starved
    exact rounds_le_of_starves_lock untouched.created untouched.backend? starved

end Attempts

/-! ## A world that fails -/

/-- Tables that accept no records for some keys, and a clock that goes on while somebody sleeps. -/
def faulty (refused : LockKey → Bool) : Handler Tables
  | .create backend record, s =>
    if refused record.key then (.error (.storage "no space"), s)
    else handle (.create backend record) s
  | .sleep nanos, s => ((), { s with time := s.time + max 1 nanos })
  | c, s => handle c s

theorem faltering_faulty (refused : LockKey → Bool) (s : Tables) (c : Call) :
    faltering s c (faulty refused c s).1 (faulty refused c s).2 := by
  cases c with
  | create backend record =>
    dsimp only [faulty]
    split
    · exact .inr ⟨⟨_, rfl⟩, rfl⟩
    · exact .inl (answers_handle s (.create backend record))
  | sleep => exact .inl rfl
  | request | read | remove | now | connect | commit | rollback | close =>
    exact .inl (answers_handle s _)

theorem contested_faulty (token : String) (refused : LockKey → Bool) (s : Tables) (c : Call) :
    contested token s c (faulty refused c s).1 (faulty refused c s).2 :=
  ⟨_, faltering_faulty refused s c, .inl rfl⟩

theorem timely_faulty (refused : LockKey → Bool) (s : Tables) (c : Call) :
    timely s c (faulty refused c s).1 (faulty refused c s).2 := by
  cases c with
  | create backend record =>
    dsimp only [faulty]
    split
    · exact Int.le_refl s.time
    · exact Int.le_refl s.time
  | now => exact ⟨rfl, Int.le_refl s.time⟩
  | sleep nanos => exact Int.le_refl _
  | request | read | remove | connect | commit | rollback | close => exact Int.le_refl s.time

/-- A lock on two keys. -/
def pairLock : TransactionLock :=
  ofKeys ⟨0, {}⟩ ⟨"me", "client"⟩ false [⟨"b"⟩, ⟨"a"⟩]

/-- A table in which the second key has a record from the beginning of time, and it is stale. -/
def abandonedTables : Tables :=
  ⟨300000000001, Function.update (fun _ => .empty) 0 ⟨[⟨⟨"b"⟩, "gone", "nobody", .ofNanos 0⟩]⟩⟩

theorem untouched_pairLock : Untouched ⟨0, {}⟩ abandonedTables pairLock := by
  refine ⟨standing_ofObjects .., rfl, rfl, ?_⟩
  rintro key ⟨record, found, own⟩
  have searched :
      [(⟨⟨"b"⟩, "gone", "nobody", .ofNanos 0⟩ : Record)].find? (·.key == key) = some record := found
  rw [List.mem_singleton.mp (List.mem_of_find?_eq_some searched)] at own
  exact absurd own (by decide)

/-- What is left of the tables when the second key was not acquired. -/
def failedTables : Tables :=
  ((pairLock.lock 1 (.after 0)).run (faulty fun key => key.text = "b") abandonedTables).2

theorem retried_pairLock : Retried ⟨0, {}⟩ failedTables pairLock := by
  have acquiring : Performs (contested "me") abandonedTables
      (pairLock.acquisition 1 (.after 0) ⟨0, {}⟩) _ (false, [⟨"a"⟩]) _ :=
    performs_of_run (contested_faulty "me" fun key => key.text = "b") rfl
  have locking : Performs (contested "me") abandonedTables (pairLock.lock 1 (.after 0)) _
      (.error (.lockTimeout ["a", "b"]), pairLock) failedTables :=
    performs_of_run (contested_faulty "me" fun key => key.text = "b") rfl
  apply (Retried.first untouched_pairLock).again locking
  refine ⟨_, _, _, _, [_, _], rfl, acquiring, ?_⟩
  rw [List.forall_mem_cons, List.forall_mem_singleton]
  exact ⟨nofun, nofun⟩

/-- After a timeout the stale record is evicted and both keys are acquired, unless the rounds run
out after the eviction. -/
theorem pairLock_all_or_nothing : ∃ t u succeeding starving after,
    Retried ⟨0, {}⟩ failedTables pairLock ∧
    Performs (contested "me") failedTables (pairLock.lock 2 (.after 0)) succeeding
      (.ok (), after) t ∧
    AllOrNothing ⟨0, {}⟩ pairLock after (.ok ()) succeeding t ∧
    Starves timely failedTables (pairLock.lock 1 (.after 0)) starving u ∧
    1 ≤ removals starving + Backend.pauses ⟨0, {}⟩ 0 := by
  obtain ⟨law, ends⟩ := retried_pairLock.lock_all_or_nothing
  have locking : Performs (contested "me") failedTables (pairLock.lock 2 (.after 0)) _
      (.ok (), _) _ :=
    performs_of_run (contested_faulty "me" fun _ => false) rfl
  have starving : Starves timely failedTables (pairLock.lock 1 (.after 0)) _ _ :=
    starves_of_run (timely_faulty fun _ => false) rfl
  refine ⟨_, _, _, _, _, retried_pairLock, locking, ?_, starving, ends _ _ _ _ starving⟩
  exact law _ _ _ _ _ _ locking (retried_pairLock.untouched.rollsBack_of_ok locking)

end TransactionLock

end TransactionKit
