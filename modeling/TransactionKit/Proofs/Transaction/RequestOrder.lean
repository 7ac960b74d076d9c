import Mathlib.Data.List.Sort
import TransactionKit.Proofs.Transaction.Requests

/-!
The order in which transaction locks request keys does not depend on how the keys were given. Locks
that are made from the same keys have the same dialogue with their strategies, so they ask the same
as long as they are answered alike. In it every operation requests the keys in ascending order and
passes them back in the reverse order: `TransactionLock.BuiltFrom.canonical_requests`.
-/

namespace TransactionKit

/-! ## Keys in ascending order -/

instance : Std.Irrefl fun a b : LockKey => a < b :=
  ⟨fun key => String.lt_irrefl key.text⟩

instance : Std.Antisymm fun a b : LockKey => a < b :=
  ⟨fun _ _ less more => (String.lt_irrefl _ (KeyOrder.trans less more)).elim⟩

/-- What stands before a key in ascending keys are the smaller ones. -/
theorem LockKey.eq_smaller_of_next {keys got : List LockKey} {key : LockKey}
    (ascending : keys.Pairwise (· < ·)) (next : got ++ [key] <+: keys) :
    key ∈ keys ∧ got = keys.filter (· < key) := by
  obtain ⟨more, rfl⟩ := next
  rw [List.append_assoc, List.singleton_append] at ascending ⊢
  obtain ⟨-, above, smaller⟩ := List.pairwise_append.mp ascending
  have before : got.filter (· < key) = got := by
    refine List.filter_eq_self.mpr fun other old => ?_
    exact decide_eq_true (smaller other old key List.mem_cons_self)
  have after : (key :: more).filter (· < key) = [] := by
    refine List.filter_eq_nil_iff.mpr fun other new => ?_
    rw [decide_eq_true_eq]
    intro less
    rcases List.mem_cons.mp new with rfl | new
    · exact String.lt_irrefl _ less
    · exact String.lt_irrefl _ (KeyOrder.trans less ((List.pairwise_cons.mp above).1 other new))
  rw [List.filter_append, before, after, List.append_nil]
  exact ⟨by simp, rfl⟩

/-! ## Conversations of operations -/

namespace Dialogue

variable {talk : List Turn} {keys : List LockKey} {config : LockConfig}

/-- A conversation that acquires the keys of a lock in a state. -/
structure Locks (keys : List LockKey) (state : LockState) (talk : List Turn)
    (rest : Dialogue (Except Error Unit × LockState)) : Prop where
  silent : state ≠ .created → talk = []
  /-- Repetitions merged, a first part of the keys is requested. -/
  merged : (requested talk).destutter (· ≠ ·) <+: keys
  /-- A key is requested after all smaller ones were acquired and before any is passed back. -/
  ascending : ∀ before attempts key timeout answer after,
    talk = before ++ ⟨.lock attempts key timeout, answer⟩ :: after →
      key ∈ keys ∧ acquired before = keys.filter (· < key) ∧ released before = []
  reversed : released talk <+: (acquired talk).reverse
  locked : ∀ after, rest = .done (.ok (), after) →
    after = .locked ∧ held keys state ++ acquired talk = keys ∧ released talk = []
  rolledBack : ∀ e after, rest = .done (.error e, after) →
    after = state ∧ released talk = (acquired talk).reverse

/-- A conversation that passes back the keys that a lock in a state has acquired. -/
structure Releases (keys : List LockKey) (state : LockState) (talk : List Turn)
    (rest : Dialogue LockState) : Prop where
  requests : requested talk = []
  reversed : released talk <+: (held keys state).reverse
  all : ∀ after, rest = .done after →
    after = .released ∧ released talk = (held keys state).reverse

/-- A conversation that checks the keys that a lock in a state has acquired. -/
structure Checks (keys : List LockKey) (state : LockState) (talk : List Turn)
    (rest : Dialogue (Bool × LockState)) : Prop where
  requests : requested talk = []
  reversed : (released talk).Sublist (held keys state).reverse
  valid : ∀ after, rest = .done (true, after) → after = state ∧ released talk = []
  /-- Only keys that are found lost are not passed back. -/
  invalid : ∀ after, rest = .done (false, after) →
    ∀ key ∈ held keys state, key ∈ released talk ∨ FoundLost talk key

/-- Nothing is asked for a lock that is locked or released already. -/
theorem Locks.of_silent {state : LockState} {rest : Dialogue (Except Error Unit × LockState)}
    (locked : ∀ after, rest = .done (.ok (), after) → after = .locked ∧ held keys state = keys)
    (failed : ∀ e after, rest = .done (.error e, after) → after = state) :
    Locks keys state [] rest where
  silent := fun _ => rfl
  merged := List.nil_prefix
  ascending := by simp
  reversed := List.nil_prefix
  locked after ended := by
    obtain ⟨rfl, all⟩ := locked after ended
    exact ⟨rfl, (List.append_nil _).trans all, rfl⟩
  rolledBack e after ended := ⟨failed e after ended, rfl⟩

/-- The keys of a lock are requested in ascending order, and passed back in the reverse order if one
of them is not acquired. -/
theorem locks_of_unfolds (ascending : keys.Pairwise (· < ·)) {rounds : Nat}
    {timeout? : Option Timeout} {state : LockState}
    {rest : Dialogue (Except Error Unit × LockState)}
    (unfolds : (lock config keys rounds timeout? state).Unfolds talk rest) :
    Locks keys state talk rest := by
  cases state with
  | created =>
    have conduct : Conducts (MayAcquire keys) _ [] (lock config keys rounds timeout? .created) :=
      conducts_lock rounds timeout?
    obtain ⟨merges, reversed⟩ := conduct.acquires ascending.nodup unfolds
    obtain ⟨ended, permitted⟩ := conduct.unfolds unfolds
    exact {
      silent := fun used => absurd rfl used
      merged := merges.merged
      ascending := by
        intro before attempts key timeout answer after split
        obtain ⟨none, next⟩ := permitted before _ after split
        obtain ⟨member, smaller⟩ := LockKey.eq_smaller_of_next ascending next
        exact ⟨member, smaller, none⟩
      reversed := reversed
      locked := by
        rintro after rfl
        obtain ⟨locked, gathered⟩ := ended.1 rfl
        exact ⟨locked, gathered.acquired_eq, gathered.released_eq⟩
      rolledBack := by
        rintro e after rfl
        exact ended.2 e rfl }
  | locked =>
    obtain ⟨rfl, rfl⟩ := unfolds.eq_of_over trivial
    refine .of_silent ?_ nofun
    rintro after ⟨⟩
    exact ⟨rfl, rfl⟩
  | released =>
    obtain ⟨rfl, rfl⟩ := unfolds.eq_of_over trivial
    refine .of_silent nofun ?_
    rintro e after ⟨⟩
    rfl

theorem releases_of_unfolds {state : LockState} {rest : Dialogue LockState}
    (unfolds : (release keys state).Unfolds talk rest) : Releases keys state talk rest := by
  have conduct := conducts_release keys state
  obtain ⟨requests, reversed⟩ := conduct.gives_back unfolds List.nil_prefix
  obtain ⟨ended, -⟩ := conduct.unfolds unfolds
  refine ⟨requests, reversed, ?_⟩
  rintro after rfl
  exact ended

theorem checks_of_unfolds {state : LockState} {rest : Dialogue (Bool × LockState)}
    (unfolds : (check keys state).Unfolds talk rest) : Checks keys state talk rest := by
  have conduct := conducts_check keys state
  obtain ⟨requests, reversed⟩ := conduct.gives_back unfolds (List.nil_sublist _)
  obtain ⟨ended, -⟩ := conduct.unfolds unfolds
  refine ⟨requests, reversed, ?_, ?_⟩
  · rintro after rfl
    exact ended.1 rfl
  · rintro after rfl
    exact ended.2 rfl

end Dialogue

open Dialogue

/-- A conversation of a user whose lock is in a state: conversations of the operations, one after
the other, each of them in order. -/
def LockUsage.InOrder (config : LockConfig) (keys : List LockKey) :
    LockUsage → LockState → List Turn → Prop
  | stop, _, talk => talk = []
  | lock rounds timeout? next, state, talk =>
    (Dialogue.lock config keys rounds timeout? state).Chained (Locks keys state)
      (fun (answer, after) more => (next answer).InOrder config keys after more) talk
  | check next, state, talk =>
    (Dialogue.check keys state).Chained (Checks keys state)
      (fun (valid, after) more => (next valid).InOrder config keys after more) talk
  | release next, state, talk =>
    (Dialogue.release keys state).Chained (Releases keys state)
      (fun after more => next.InOrder config keys after more) talk
  | nest _ _ _ _ next, state, talk => next.InOrder config keys state talk
  | unnest next, state, talk => next.InOrder config keys state talk

theorem LockUsage.inOrder_of_unfolds {config : LockConfig} {keys : List LockKey}
    (ascending : keys.Pairwise (· < ·)) {usage : LockUsage} {state : LockState} {talk : List Turn}
    {rest : Dialogue Unit} (unfolds : (usage.dialogue config keys state).Unfolds talk rest) :
    usage.InOrder config keys state talk := by
  induction usage generalizing state talk with
  | stop => exact (unfolds.eq_of_over trivial).1
  | lock rounds timeout? next hypothesis =>
    refine unfolds.chained (fun _ _ => locks_of_unfolds ascending) ?_
    exact fun (answer, _) _ => hypothesis answer
  | check next hypothesis =>
    refine unfolds.chained (fun _ _ => checks_of_unfolds) ?_
    exact fun (valid, _) _ => hypothesis valid
  | release next hypothesis =>
    exact unfolds.chained (fun _ _ => releases_of_unfolds) fun _ _ => hypothesis
  | nest backend owner relaxed objects next hypothesis => exact hypothesis unfolds
  | unnest next hypothesis => exact hypothesis unfolds

/-! ## Locks made from the same keys -/

namespace TransactionLock

/-- A lock that was made from a list of keys: the keys themselves, or those of some entities. -/
inductive BuiltFrom (backend : Backend) (owner : Owner) (keys : List LockKey) :
    TransactionLock → Prop where
  | keys (relaxed : Bool) : BuiltFrom backend owner keys (ofKeys backend owner relaxed keys)
  | entities {relaxed : Bool} {types : EntityTypes} {entities : List Entity}
      {this : TransactionLock} (named : entities.mapM (LockKey.ofEntity types) = .ok keys)
      (built : ofEntities backend owner relaxed types entities = .ok this) :
      BuiltFrom backend owner keys this

variable {backend : Backend} {owner : Owner} {keys : List LockKey} {this : TransactionLock}

/-- The entries of a lock on entities are under the keys of the entities. -/
theorem mapM_ofEntity_eq (types : EntityTypes) (entities : List Entity) :
    entities.mapM (LockKey.ofEntity types) = List.map Prod.fst <$> entities.mapM fun entity => do
      return (← LockKey.ofEntity types entity, some entity) := by
  induction entities with
  | nil => rfl
  | cons entity rest hypothesis =>
    simp only [List.mapM_cons, hypothesis]
    cases LockKey.ofEntity types entity with
    | error e => rfl
    | ok key =>
      cases rest.mapM fun entity => do return (← LockKey.ofEntity types entity, some entity) with
      | error e => rfl
      | ok objects => rfl

theorem BuiltFrom.exists_objects (built : BuiltFrom backend owner keys this) :
    ∃ relaxed objects, this = ofObjects backend owner relaxed objects ∧
      objects.map Prod.fst = keys := by
  cases built with
  | keys relaxed => exact ⟨relaxed, _, rfl, by simp [Function.comp_def]⟩
  | @entities relaxed types entities _ named built =>
    rw [mapM_ofEntity_eq] at named
    unfold ofEntities at built
    cases made : entities.mapM fun entity => do
        return (← LockKey.ofEntity types entity, some entity) with
    | error e =>
      rw [made] at named
      cases named
    | ok objects =>
      rw [made] at named built
      cases named
      cases built
      exact ⟨relaxed, objects, rfl, rfl⟩

/-- A lock that was made from keys is on those keys, in ascending order and each of them once. -/
theorem BuiltFrom.bears (built : BuiltFrom backend owner keys this) :
    this.Bears backend owner this.keys .created ∧ this.keys.Pairwise (· < ·) ∧
      ∀ key, key ∈ this.keys ↔ key ∈ keys := by
  obtain ⟨relaxed, objects, rfl, rfl⟩ := built.exists_objects
  exact ⟨⟨standing_ofObjects .., rfl, rfl, fun _ => ⟨rfl, rfl⟩⟩, SortedMap.ascending_keys _,
    fun _ => SortedMap.mem_keys_ofList⟩

/-- Locks that are made from the same keys, in whatever order and however often each of them is
given, have the same dialogue with their strategies, so they ask the same as long as they are
answered alike. The keys are requested in ascending order and passed back in the reverse order. -/
theorem BuiltFrom.canonical_requests {other : Backend} {another : Owner} {others : List LockKey}
    {that : TransactionLock} (built : BuiltFrom backend owner keys this)
    (builtToo : BuiltFrom other another others that) (config : other.config = backend.config)
    (same : ∀ key, key ∈ others ↔ key ∈ keys) (usage : LockUsage) :
    ∃ ordered : List LockKey,
      (ordered.Pairwise fun a b => a.text.toList < b.text.toList) ∧
      (∀ key, key ∈ ordered ↔ key ∈ keys) ∧
      ∃ dialogue, dialogue = usage.dialogue backend.config ordered .created ∧
        (∀ deadline, usage.routine this = dialogue.routine backend owner deadline ∧
          usage.routine that = dialogue.routine other another deadline) ∧
        (∀ talk rest, dialogue.Unfolds talk rest →
          usage.InOrder backend.config ordered .created talk) ∧
        ∀ talk reply rest left, dialogue.Unfolds talk rest → dialogue.Unfolds reply left →
          AnsweredAlike talk reply →
            (talk <+: reply ∨ reply <+: talk) ∧ (rest.Over → left.Over → reply = talk) := by
  obtain ⟨bears, ascending, members⟩ := built.bears
  obtain ⟨bearsToo, ascendingToo, membersToo⟩ := builtToo.bears
  have ordered : that.keys = this.keys :=
    ascendingToo.eq_of_mem_iff ascending fun key => by rw [membersToo, same, members]
  rw [ordered] at bearsToo
  refine ⟨this.keys, ascending, members, _, rfl, fun deadline => ⟨bears.routine_eq usage, ?_⟩,
    fun _ _ => LockUsage.inOrder_of_unfolds ascending, ?_⟩
  · rw [← config]
    exact bearsToo.routine_eq usage
  · intro talk reply rest left unfolds unfoldsToo alike
    obtain ⟨comparable, ends⟩ := unfolds.same unfoldsToo alike
    exact ⟨comparable, fun ended endedToo => (ends ended endedToo).1⟩

/-- Two locks made from two keys, one of which is given twice. The second key is refused twice, so
the first one is passed back. -/
theorem shuffled_canonical_requests :
    ∃ first second talk, ∃ usage : LockUsage,
      BuiltFrom ⟨0, {}⟩ ⟨"x", "first"⟩ [⟨"b"⟩, ⟨"a"⟩, ⟨"b"⟩] first ∧
      BuiltFrom ⟨1, {}⟩ ⟨"y", "second"⟩ [⟨"a"⟩, ⟨"b"⟩] second ∧
      (∀ key : LockKey, key ∈ [⟨"a"⟩, ⟨"b"⟩] ↔ key ∈ [⟨"b"⟩, ⟨"a"⟩, ⟨"b"⟩]) ∧
      (usage.dialogue {} [⟨"a"⟩, ⟨"b"⟩] .created).Unfolds talk (.done ()) ∧
      requested talk = [⟨"a"⟩, ⟨"b"⟩, ⟨"b"⟩] ∧ released talk = [⟨"a"⟩] ∧
      usage.InOrder {} [⟨"a"⟩, ⟨"b"⟩] .created talk := by
  have same : ∀ key : LockKey, key ∈ [⟨"a"⟩, ⟨"b"⟩] ↔ key ∈ [⟨"b"⟩, ⟨"a"⟩, ⟨"b"⟩] := by
    intro key
    simp only [List.mem_cons, List.not_mem_nil, or_false]
    tauto
  have first : BuiltFrom ⟨0, {}⟩ ⟨"x", "first"⟩ [⟨"b"⟩, ⟨"a"⟩, ⟨"b"⟩] _ := .keys false
  have second : BuiltFrom ⟨1, {}⟩ ⟨"y", "second"⟩ [⟨"a"⟩, ⟨"b"⟩] _ := .keys true
  let usage : LockUsage := .lock 2 (some (.after 60000000)) fun _ => .stop
  obtain ⟨ordered, ascending, members, _, rfl, -, inOrder, -⟩ :=
    first.canonical_requests second rfl same usage
  have sorted : [⟨"a"⟩, ⟨"b"⟩].Pairwise fun a b : LockKey => a < b := by decide
  obtain rfl : ordered = [⟨"a"⟩, ⟨"b"⟩] :=
    ascending.eq_of_mem_iff sorted fun key => (members key).trans (same key).symm
  let talk : List Turn := [⟨.start (.after 60000000), ()⟩,
    ⟨.remaining, .after 60000000⟩, ⟨.lock 2 ⟨"a"⟩ (.after 60000000), .ok ()⟩,
    ⟨.remaining, .after 59000000⟩,
    ⟨.lock 2 ⟨"b"⟩ (.after 59000000), .error (.invalidState "unreachable")⟩,
    ⟨.expired, false⟩, ⟨.pause 50000000, ()⟩, ⟨.remaining, .after 8000000⟩,
    ⟨.lock 2 ⟨"b"⟩ (.after 8000000), .error (.lockTimeout ["b"])⟩, ⟨.expired, true⟩,
    ⟨.release ⟨"a"⟩, .ok true⟩]
  have unfolds : (usage.dialogue {} [⟨"a"⟩, ⟨"b"⟩] .created).Unfolds talk (.done ()) :=
    .turn <| .turn <| .turn <| .turn <| .turn <| .turn <| .turn <| .turn <| .turn <| .turn <|
      .turn <| .refl _
  exact ⟨_, _, talk, usage, first, second, same, unfolds, rfl, rfl, inOrder talk _ unfolds⟩

end TransactionLock

end TransactionKit
