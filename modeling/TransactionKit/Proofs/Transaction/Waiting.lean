import Mathlib.Logic.Relation
import TransactionKit.Proofs.Transaction.Acquisition

/-!
Deadlock freedom. Any number of clients use transaction locks on one backend; their calls
interleave in any order, accesses fail at any time, and stale records are evicted by whoever meets
them. A client waits for another if it is trying to acquire a key whose record belongs to the lock
of that one. Every record was inserted by its owner, and it can be told from the exchanges of the
owner (`Run.attributed`). A client that is trying to acquire a key can only hold smaller ones. So
along a chain of waiting clients the keys become greater, and the chain never comes back to where it
began (`Run.deadlockFree`).

Owners are told apart by their tokens, so no token is given to two users. And no release fails:
after a failed one, a lock that is locked again would ask for small keys while its owner still has
the record of a greater one.
-/

namespace TransactionKit

/-- Users of locks on one backend. -/
def LockUser.service (backend : Backend) : Service where
  Operation := LockUser
  Answer _ := Unit
  routine := LockUser.routine backend

namespace Interleaving

variable {backend : Backend} {Client : Type}
  {events : List (Event (LockUser.service backend) Client)}
  {event : Event (LockUser.service backend) Client} {s t : State (LockUser.service backend) Client}

/-- The tokens of all users that have begun. -/
def tokens : List (Event (LockUser.service backend) Client) → List String
  | [] => []
  | .began _ (user : LockUser) :: earlier => user.owner.token :: tokens earlier
  | .made .. :: earlier => tokens earlier
  | .ended .. :: earlier => tokens earlier
  | .passed _ :: earlier => tokens earlier

theorem tokens_sublist_cons (event : Event (LockUser.service backend) Client)
    (events : List (Event (LockUser.service backend) Client)) :
    (tokens events).Sublist (tokens (event :: events)) := by
  cases event with
  | began client user => exact List.sublist_cons_self ..
  | made | ended | passed => exact .refl _

variable [DecidableEq Client]

/-- A client is trying to acquire a key. -/
def Seeks (events : List (Event (LockUser.service backend) Client)) (client : Client)
    (key : LockKey) : Prop :=
  ∃ (user : LockUser) (past : List Exchange),
    underway client events = some (user, past) ∧ user.Tries backend past key

/-- The record of a key belongs to a client. -/
def Owns (events : List (Event (LockUser.service backend) Client))
    (s : State (LockUser.service backend) Client) (client : Client) (key : LockKey) : Prop :=
  ∃ (user : LockUser) (past : List Exchange) (record : Record),
    underway client events = some (user, past) ∧ s.table.read key = some record ∧
      record.owner = user.owner.token

/-- A client waits for another if it is trying to acquire a key that belongs to the other. -/
def WaitsFor (events : List (Event (LockUser.service backend) Client))
    (s : State (LockUser.service backend) Client) (waiting holding : Client) : Prop :=
  ∃ key, Seeks events waiting key ∧ Owns events s holding key

/-- No release has failed in what the clients are in the middle of. -/
def Reliable (events : List (Event (LockUser.service backend) Client)) : Prop :=
  ∀ client (user : LockUser) past, underway client events = some (user, past) →
    ¬ user.ReleaseFailed backend past

/-! ## Whose records there are -/

/-- Every record in the table belongs to a user that has begun, and one that is in the middle of
something can tell from its exchanges what it may hold. -/
structure Attributed (events : List (Event (LockUser.service backend) Client))
    (s : State (LockUser.service backend) Client) : Prop where
  known : ∀ key record, s.table.read key = some record → record.owner ∈ tokens events
  told : ∀ client (user : LockUser) past, underway client events = some (user, past) →
    ∀ key record, s.table.read key = some record → record.owner = user.owner.token →
      MayHold user.owner.token key past

theorem mem_tokens_of_underway {client : Client} {user : LockUser} {past : List Exchange}
    (present : underway client events = some (user, past)) : user.owner.token ∈ tokens events := by
  induction events generalizing past with
  | nil => cases present
  | cons event events hypothesis =>
      rcases underway_cons present with ⟨-, kept⟩ | ⟨rfl, -⟩ | ⟨_, _, rfl, -, kept⟩
      · exact (tokens_sublist_cons event events).subset (hypothesis kept)
      · exact List.mem_cons_self
      · exact hypothesis kept

/-- Where no token is used twice, different clients are users with different tokens. -/
theorem eq_of_token_eq (distinct : (tokens events).Nodup) {first second : Client}
    {user other : LockUser} {past otherPast : List Exchange}
    (present : underway first events = some (user, past))
    (otherPresent : underway second events = some (other, otherPast))
    (same : user.owner.token = other.owner.token) : first = second := by
  induction events generalizing past otherPast with
  | nil => cases present
  | cons event events hypothesis =>
      have earlier : (tokens events).Nodup := distinct.sublist (tokens_sublist_cons event events)
      rcases underway_cons present with ⟨-, kept⟩ | ⟨rfl, -⟩ | ⟨_, _, rfl, -, kept⟩
      · rcases underway_cons otherPresent with ⟨-, otherKept⟩ | ⟨rfl, -⟩ | ⟨_, _, rfl, -, otherKept⟩
        · exact hypothesis earlier kept otherKept
        · exact absurd (same ▸ mem_tokens_of_underway kept) (List.nodup_cons.mp distinct).1
        · exact hypothesis earlier kept otherKept
      · rcases underway_cons otherPresent with ⟨-, otherKept⟩ | ⟨begun, -⟩ | ⟨_, _, made, -, -⟩
        · exact absurd (same ▸ mem_tokens_of_underway otherKept) (List.nodup_cons.mp distinct).1
        · cases begun
          rfl
        · cases made
      · rcases underway_cons otherPresent with ⟨-, otherKept⟩ | ⟨begun, -⟩ | ⟨_, _, -, -, otherKept⟩
        · exact hypothesis earlier kept otherKept
        · cases begun
        · exact hypothesis earlier kept otherKept

/-- A record that is in the table after a call has not been told to be gone. -/
theorem Step.not_clears {client : Client} {exchange : Exchange} {key : LockKey} {record : Record}
    (step : Step s (.made client exchange) t) (held : t.table.read key = some record) :
    ¬ exchange.Clears record.owner key := by
  obtain ⟨c, answer⟩ := exchange
  cases c with
  | read target other =>
      rintro ⟨rfl, found?, rfl, others⟩
      exact others record (step.of_read.2.symm.trans held) rfl
  | remove target other owner? =>
      rintro ⟨rfl, asked, removed, rfl⟩
      by_cases before : s.table.read other = some record
      · rw [(step.read_eq_none_iff before).mpr asked] at held
        cases held
      · obtain ⟨_, _, created⟩ := step.inserted_of_gained before held
        cases created
  | _ => exact id

/-- A record in the table was there before, or its owner is the user that has just inserted it. -/
theorem Run.held_or_inserted (run : Run events s) (step : Step s event t) {key : LockKey}
    {record : Record} (held : t.table.read key = some record) :
    s.table.read key = some record ∨
      ∃ (client : Client) (target : Backend) (user : LockUser) (past : List Exchange),
        event = .made client ⟨.create target record, .ok true⟩ ∧
          underway client events = some (user, past) ∧ record.owner = user.owner.token := by
  by_cases before : s.table.read key = some record
  · exact .inl before
  · obtain ⟨client, target, rfl⟩ := step.inserted_of_gained before held
    obtain ⟨user, past, present, own⟩ :=
      run.call_permitted (LockUser.conducts_locksFor backend) step
    exact .inr ⟨client, target, user, past, rfl, present, own⟩

theorem Run.attributed (run : Run events s) (distinct : (tokens events).Nodup) :
    Attributed events s := by
  obtain ⟨time, steps⟩ := run
  induction steps with
  | refl =>
      refine ⟨?_, ?_⟩
      · intro key record held
        cases held
      · intro client user past present
        cases present
  | @step s t events event before last hypothesis =>
      have run : Run events s := ⟨time, before⟩
      have fewer := tokens_sublist_cons event events
      obtain ⟨known, told⟩ := hypothesis (distinct.sublist fewer)
      refine ⟨fun key record held => fewer.subset ?_, ?_⟩
      · rcases run.held_or_inserted last held with old | ⟨_, _, user, past, -, present, own⟩
        · exact known key record old
        · exact own ▸ mem_tokens_of_underway present
      · intro client user past present key record held own
        have gained := run.held_or_inserted last held
        rcases underway_cons present with ⟨other, kept⟩ | ⟨rfl, rfl⟩ | ⟨exchange, _, rfl, rfl, kept⟩
        · rcases gained with old | ⟨actor, _, inserter, _, rfl, acting, ofInserter⟩
          · exact told client user past kept key record old own
          · -- the record of one client is not inserted by another
            have same := eq_of_token_eq (distinct.sublist fewer) kept acting
              (own.symm.trans ofInserter)
            exact absurd (congrArg some same.symm) other
        · rcases gained with old | ⟨_, _, _, _, created, -⟩
          · exact absurd (own ▸ known key record old) (List.nodup_cons.mp distinct).1
          · cases created
        · rcases gained with old | ⟨_, _, _, _, created, -⟩
          · exact .kept (told client user _ kept key record old own) (own ▸ last.not_clears held)
          · cases created
            exact .inserted ⟨rfl, RecordTable.key_of_read held, own⟩

/-! ## Chains of waiting clients -/

/-- A client that is trying to acquire a key owns only smaller ones. -/
theorem Run.lt_of_seeks (run : Run events s) (distinct : (tokens events).Nodup)
    (reliable : Reliable events) {client : Client} {key held : LockKey}
    (seeks : Seeks events client key) (owns : Owns events s client held) : held < key := by
  obtain ⟨user, past, present, tries⟩ := seeks
  obtain ⟨_, _, record, same, found, own⟩ := owns
  rw [present] at same
  cases same
  have told := (run.attributed distinct).told client user past present held record found own
  exact tries.above (reliable client user past present) held told

/-- Along a chain of waiting clients the keys become greater. -/
theorem Run.chain_ascends (run : Run events s) (distinct : (tokens events).Nodup)
    (reliable : Reliable events) {first last : Client}
    (chain : Relation.TransGen (WaitsFor events s) first last) :
    ∃ key greater, Seeks events first key ∧ Owns events s last greater ∧
      (key = greater ∨ key < greater) := by
  induction chain with
  | single waits =>
      obtain ⟨key, seeks, owns⟩ := waits
      exact ⟨key, key, seeks, owns, .inl rfl⟩
  | tail _ waits hypothesis =>
      obtain ⟨key, middle, seeks, owns, le⟩ := hypothesis
      obtain ⟨greater, alsoSeeks, alsoOwns⟩ := waits
      have lt : middle < greater := run.lt_of_seeks distinct reliable alsoSeeks owns
      refine ⟨key, greater, seeks, alsoOwns, .inr ?_⟩
      rcases le with rfl | le
      · exact lt
      · exact KeyOrder.trans le lt

/-- No client waits for itself, be it through others. -/
theorem Run.deadlockFree (run : Run events s) (distinct : (tokens events).Nodup)
    (reliable : Reliable events) (client : Client) :
    ¬ Relation.TransGen (WaitsFor events s) client client := by
  intro cycle
  obtain ⟨key, greater, seeks, owns, le⟩ := run.chain_ascends distinct reliable cycle
  have lt : greater < key := run.lt_of_seeks distinct reliable seeks owns
  rcases le with rfl | le
  · exact String.lt_irrefl _ lt
  · exact String.lt_irrefl _ (KeyOrder.trans le lt)

/-! ## Runs without faults -/

/-- A record could not be read or removed. -/
def Event.failed : Event (LockUser.service backend) Client → Bool
  | .made _ exchange => exchange.failed
  | .began .. | .ended .. | .passed _ => false

theorem made_of_mem_past {client : Client} {user : LockUser} {past : List Exchange}
    {exchange : Exchange} (present : underway client events = some (user, past))
    (member : exchange ∈ past) : .made client exchange ∈ events := by
  induction events generalizing past with
  | nil => cases present
  | cons event events hypothesis =>
      rcases underway_cons present with ⟨-, kept⟩ | ⟨rfl, rfl⟩ | ⟨last, before, rfl, rfl, kept⟩
      · exact List.mem_cons_of_mem _ (hypothesis kept member)
      · cases member
      · rcases List.mem_cons.mp member with rfl | earlier
        · exact List.mem_cons_self
        · exact List.mem_cons_of_mem _ (hypothesis kept earlier)

/-- Where every record could be read and removed, no release has failed. -/
theorem reliable_of_served (served : events.all (fun event => !event.failed) = true) :
    Reliable events := by
  intro client user past present failed
  obtain ⟨later, last, before, rfl, broken, -⟩ := failed.exists_failed
  have member := made_of_mem_past present (List.mem_append_right later List.mem_cons_self)
  have fine := List.all_eq_true.mp served _ member
  simp [Event.failed, broken] at fine

/-- One user locks two keys, and another one the greater of them. -/
def latecomer : LockUser :=
  ⟨[(⟨"b"⟩, none), (⟨"a"⟩, none)], ⟨"x", "first"⟩, false, .lock 2 (some .never) fun _ => .stop⟩

def holder : LockUser :=
  ⟨[(⟨"b"⟩, none)], ⟨"y", "second"⟩, false, .lock 2 (some .never) fun _ => .release .stop⟩

/-- The latecomer has acquired the smaller key and finds the greater one taken. -/
def contention : List (Move (LockUser.service ⟨0, {}⟩) Nat) :=
  [.begin 1 holder, .proceed 1 none, .proceed 1 none, .proceed 1 none,
    .begin 0 latecomer, .proceed 0 none, .proceed 0 none, .proceed 0 none,
    .proceed 0 none, .proceed 0 none, .proceed 0 none]

theorem latecomer_tries : latecomer.Tries ⟨0, {}⟩
    [⟨.create ⟨0, {}⟩ ⟨⟨"b"⟩, "x", "first", .ofNanos 0⟩, (Except.ok false : Except Error Bool)⟩,
      ⟨.now, (0 : Int)⟩, ⟨.request ⟨0, {}⟩ ⟨"b"⟩, (Except.ok () : Except Error Unit)⟩,
      ⟨.create ⟨0, {}⟩ ⟨⟨"a"⟩, "x", "first", .ofNanos 0⟩, (Except.ok true : Except Error Bool)⟩,
      ⟨.now, (0 : Int)⟩, ⟨.request ⟨0, {}⟩ ⟨"a"⟩, (Except.ok () : Except Error Unit)⟩] ⟨"b"⟩ := by
  obtain ⟨f, begins⟩ :=
    LockUser.routine_eq_of_lock (rfl : latecomer.plan = .lock 2 (some .never) _) ⟨0, {}⟩
  have here : Routine.Leads (latecomer.routine ⟨0, {}⟩) []
      (TransactionLock.acquireKeys 2 ⟨0, {}⟩ latecomer.owner ⟨none⟩ [] [⟨"a"⟩, ⟨"b"⟩] >>= f) :=
    begins ▸ .refl _
  simp only [TransactionLock.acquireKeys, bind_assoc] at here
  have acquired := Routine.Leads.answer (.answer (.answer
    (.refl (TransactionLock.acquireKey 2 ⟨0, {}⟩ latecomer.owner ⟨none⟩ ⟨"a"⟩ 2))
      (Except.ok () : Except Error Unit)) (0 : Int)) (Except.ok true : Except Error Bool)
  have here := here.after acquired
  simp only [if_true, bind_assoc] at here
  have amid := Routine.Leads.answer (.answer (.answer
    (.refl (TransactionLock.acquireKey 2 ⟨0, {}⟩ latecomer.owner ⟨none⟩ ⟨"b"⟩ 2))
      (Except.ok () : Except Error Unit)) (0 : Int)) (Except.ok false : Except Error Bool)
  exact ⟨2, ⟨none⟩, 2, _, _, _, _, _, rfl, here, amid⟩

theorem contention_deadlockFree :
    ∃ events s, (State.initial 0).play? contention = some (events, s) ∧
      (tokens events).Nodup ∧ Reliable events ∧ WaitsFor events s 0 1 ∧
        ∀ client, ¬ Relation.TransGen (WaitsFor events s) client client := by
  refine ⟨_, _, rfl, by decide, reliable_of_served rfl, ?_, fun client => ?_⟩
  · exact ⟨⟨"b"⟩, ⟨latecomer, _, rfl, latecomer_tries⟩, ⟨holder, _, _, rfl, rfl, rfl⟩⟩
  · have run := Run.of_play? (rfl : (State.initial 0).play? contention = some _)
    exact run.deadlockFree (by decide) (reliable_of_served rfl) client

end Interleaving

end TransactionKit
