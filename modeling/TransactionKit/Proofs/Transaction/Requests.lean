import Mathlib.Data.List.Destutter
import TransactionKit.Proofs.Transaction.Negotiation

/-!
What a transaction lock requests and passes back in a conversation with its strategy. Each part of
an operation is followed through its dialogue: a key is requested when those before it are acquired
and nothing is passed back yet, and then the acquired keys are passed back, the last first
(`Dialogue.conducts_lock`, `Dialogue.conducts_release`, `Dialogue.conducts_check`). Repetitions
merged, the requested keys are at any time a first part of the keys of the lock
(`Dialogue.Conducts.acquires`).
-/

namespace TransactionKit

/-! ## Merged repetitions -/

theorem destutter'_concat {α : Type} [DecidableEq α] (l : List α) (a b : α) :
    (l ++ [b]).destutter' (· ≠ ·) a =
      if (a :: l).getLast? = some b then l.destutter' (· ≠ ·) a
      else l.destutter' (· ≠ ·) a ++ [b] := by
  induction l generalizing a with
  | nil => by_cases same : a = b <;> simp [same]
  | cons c l hypothesis =>
    rw [List.cons_append, List.destutter'_cons, List.destutter'_cons, hypothesis, hypothesis,
      List.getLast?_cons_cons]
    by_cases same : a = c
    · simp [same]
    · by_cases last : (c :: l).getLast? = some b <;> simp [same, last]

theorem destutter_concat {α : Type} [DecidableEq α] (l : List α) (b : α) :
    (l ++ [b]).destutter (· ≠ ·) =
      if l.getLast? = some b then l.destutter (· ≠ ·) else l.destutter (· ≠ ·) ++ [b] := by
  cases l with
  | nil => simp
  | cons a l => exact destutter'_concat l a b

/-! ## Requests and releases in a conversation -/

namespace Turn

/-- The key that is requested. -/
def requested? : Turn → Option LockKey
  | ⟨.lock _ key _, _⟩ => some key
  | _ => none

/-- The key that is acquired. -/
def acquired? : Turn → Option LockKey
  | ⟨.lock _ key _, .ok _⟩ => some key
  | _ => none

/-- The key that is passed back. -/
def released? : Turn → Option LockKey
  | ⟨.release key, _⟩ => some key
  | _ => none

end Turn

namespace Dialogue

/-- The keys that are requested in a conversation, in order. -/
def requested (talk : List Turn) : List LockKey :=
  talk.filterMap Turn.requested?

/-- The keys that are acquired in a conversation, in order. -/
def acquired (talk : List Turn) : List LockKey :=
  talk.filterMap Turn.acquired?

/-- The keys that are passed back in a conversation, in order. -/
def released (talk : List Turn) : List LockKey :=
  talk.filterMap Turn.released?

variable {past talk : List Turn} {keys all : List LockKey} {config : LockConfig}

@[simp] theorem requested_nil : requested [] = [] := rfl

@[simp] theorem acquired_nil : acquired [] = [] := rfl

@[simp] theorem released_nil : released [] = [] := rfl

@[simp] theorem requested_concat (past : List Turn) (turn : Turn) :
    requested (past ++ [turn]) = requested past ++ turn.requested?.toList := by
  cases found : turn.requested? <;> simp [requested, List.filterMap_append, found]

@[simp] theorem acquired_concat (past : List Turn) (turn : Turn) :
    acquired (past ++ [turn]) = acquired past ++ turn.acquired?.toList := by
  cases found : turn.acquired? <;> simp [acquired, List.filterMap_append, found]

@[simp] theorem released_concat (past : List Turn) (turn : Turn) :
    released (past ++ [turn]) = released past ++ turn.released?.toList := by
  cases found : turn.released? <;> simp [released, List.filterMap_append, found]

/-! ## What an operation may ask -/

/-- What may be asked while keys are acquired: the next key, as long as nothing is passed back, and
then the acquired keys, the last first. -/
def MayAcquire (keys : List LockKey) (past : List Turn) : Inquiry → Prop
  | .lock _ key _ => released past = [] ∧ acquired past ++ [key] <+: keys
  | .release key => released past ++ [key] <+: (acquired past).reverse
  | .isHeldBy _ => False
  | .start _ | .remaining | .expired | .pause _ => True

/-- Some keys have been acquired and none has been passed back. -/
structure Gathered (got : List LockKey) (past : List Turn) : Prop where
  acquired_eq : acquired past = got
  released_eq : released past = []

theorem Gathered.concat {got : List LockKey} (gathered : Gathered got past) (turn : Turn)
    (keeps : turn.released? = none) :
    Gathered (got ++ turn.acquired?.toList) (past ++ [turn]) := by
  obtain ⟨rfl, released_eq⟩ := gathered
  exact ⟨acquired_concat .., by simp [released_eq, keeps]⟩

/-- A turn that acquires nothing and passes nothing back changes nothing. -/
theorem Gathered.wait {got : List LockKey} (gathered : Gathered got past) (turn : Turn)
    (gains : turn.acquired? = none) (keeps : turn.released? = none) :
    Gathered got (past ++ [turn]) := by
  simpa [gains] using gathered.concat turn keeps

/-- While a key is requested nothing else is acquired or passed back. -/
theorem conducts_acquireKey {attempts : Nat} {key : LockKey} {got : List LockKey} (rounds : Nat)
    (gathered : Gathered got past) (next : got ++ [key] <+: keys) :
    Conducts (MayAcquire keys)
      (fun past success => Gathered (got ++ if success then [key] else []) past)
      past (acquireKey config attempts key rounds) := by
  induction rounds generalizing past with
  | zero => trivial
  | succ rounds hypothesis =>
    refine ⟨trivial, fun timeout => ?_⟩
    replace gathered := gathered.wait ⟨.remaining, timeout⟩ rfl rfl
    refine ⟨⟨gathered.released_eq, gathered.acquired_eq ▸ next⟩, fun answer => ?_⟩
    cases answer with
    | ok _ => exact gathered.concat ⟨.lock attempts key timeout, .ok ()⟩ rfl
    | error e =>
      replace gathered := gathered.wait ⟨.lock attempts key timeout, .error e⟩ rfl rfl
      refine ⟨trivial, fun expired => ?_⟩
      replace gathered := gathered.wait ⟨.expired, expired⟩ rfl rfl
      cases expired with
      | true =>
        rw [← List.append_nil got] at gathered
        exact gathered
      | false => exact ⟨trivial, fun _ => hypothesis (gathered.wait _ rfl rfl)⟩

/-- Keys that are acquired in order are requested one after the other. -/
theorem conducts_acquireKeys {rounds : Nat} {got rest : List LockKey} (gathered : Gathered got past)
    (all : got ++ rest = keys) :
    Conducts (MayAcquire keys)
      (fun past result => Gathered result.2 past ∧ (result.1 = true → result.2 = keys))
      past (acquireKeys config rounds got rest) := by
  induction rest generalizing got past with
  | nil => exact ⟨gathered, fun _ => by simpa using all⟩
  | cons key rest hypothesis =>
    have next : got ++ [key] <+: keys := ⟨rest, by simpa using all⟩
    refine (conducts_acquireKey rounds gathered next).bind fun past success gathered => ?_
    cases success with
    | true => exact hypothesis gathered (by simpa using all)
    | false => exact ⟨by simpa using gathered, nofun⟩

/-- Keys are passed back in the order in which they are listed. What may be passed back can depend
on what was acquired, which stays the same meanwhile. -/
theorem conducts_releaseKeys {permits : List Turn → Inquiry → Prop} {left : List LockKey}
    (permitted : ∀ past key, acquired past = keys → released past ++ [key] <+: all →
      permits past (.release key))
    (gathered : acquired past = keys) (rest : released past ++ left = all) :
    Conducts permits (fun past _ => acquired past = keys ∧ released past = all)
      past (releaseKeys left) := by
  induction left generalizing past with
  | nil => exact ⟨gathered, by simpa using rest⟩
  | cons key left hypothesis =>
    refine ⟨permitted past key gathered ⟨left, by simpa using rest⟩, fun answer => ?_⟩
    refine hypothesis ?_ ?_
    · simpa [Turn.acquired?] using gathered
    · simpa [Turn.released?] using rest

/-- What may be asked while keys are passed back: whether a key is held, and what leaves the keys
that were passed back in good order. -/
def MayGiveBack (good : List LockKey → Prop) (past : List Turn) : Inquiry → Prop
  | .release key => good (released past ++ [key])
  | .isHeldBy _ => True
  | .lock .. | .start _ | .remaining | .expired | .pause _ => False

theorem released_isHeldBy (past : List Turn) (key : LockKey) (answer : Except Error Bool) :
    released (past ++ [⟨.isHeldBy key, answer⟩]) = released past := by
  simp [Turn.released?]

theorem conducts_anyLost {good : List LockKey → Prop} (keys : List LockKey)
    (none : released past = []) :
    Conducts (MayGiveBack good) (fun past _ => released past = []) past (anyLost keys) := by
  induction keys generalizing past with
  | nil => exact none
  | cons key rest hypothesis =>
    refine ⟨trivial, fun answer => ?_⟩
    have none := (released_isHeldBy past key answer).trans none
    match answer with
    | .ok false => exact none
    | .ok true | .error e => exact hypothesis none

/-- A key is found lost. -/
def FoundLost (talk : List Turn) (key : LockKey) : Prop :=
  ⟨.isHeldBy key, .ok false⟩ ∈ talk

/-- What is left of some keys after they are checked, before anything is passed back. -/
structure Sifted (keys : List LockKey) (past : List Turn) (left : List LockKey) : Prop where
  released_eq : released past = []
  among : left.Sublist keys
  lost : ∀ key ∈ keys, key ∈ left ∨ FoundLost past key

theorem Sifted.drop {key : LockKey} {left : List LockKey} (sifted : Sifted keys past left)
    (found : FoundLost past key) : Sifted (key :: keys) past left where
  released_eq := sifted.released_eq
  among := sifted.among.cons key
  lost := List.forall_mem_cons.mpr ⟨.inr found, sifted.lost⟩

theorem Sifted.keep {left : List LockKey} (sifted : Sifted keys past left) (key : LockKey) :
    Sifted (key :: keys) past (key :: left) where
  released_eq := sifted.released_eq
  among := sifted.among.cons_cons key
  lost := List.forall_mem_cons.mpr ⟨.inl List.mem_cons_self, fun other member =>
    (sifted.lost other member).imp_left (List.mem_cons_of_mem key)⟩

theorem conducts_notLost {good : List LockKey → Prop} (keys : List LockKey)
    (none : released past = []) :
    Conducts (MayGiveBack good) (Sifted keys) past (notLost keys) := by
  induction keys generalizing past with
  | nil => exact ⟨none, .slnil, by simp⟩
  | cons key rest hypothesis =>
    refine ⟨trivial, fun answer => ?_⟩
    have others := hypothesis ((released_isHeldBy past key answer).trans none)
    match answer with
    | .ok false =>
      -- the answer is still there when the other keys have been checked
      refine (others.onward (List.prefix_refl _)).mono fun later left ⟨sifted, earlier⟩ => ?_
      exact sifted.drop (earlier.subset (by simp))
    | .ok true | .error e => exact others.bind fun _ _ sifted => sifted.keep key

theorem conducts_lock (rounds : Nat) (timeout? : Option Timeout) :
    Conducts (MayAcquire keys)
      (fun past result => (result.1 = .ok () → result.2 = .locked ∧ Gathered keys past) ∧
        ∀ e, result.1 = .error e → result.2 = .created ∧ released past = (acquired past).reverse)
      [] (lock config keys rounds timeout? .created) := by
  refine ⟨trivial, fun _ => ?_⟩
  have start : Gathered [] [⟨.start (timeout?.getD (.after config.defaultTimeout)), ()⟩] :=
    ⟨rfl, rfl⟩
  refine (conducts_acquireKeys start (List.nil_append keys)).bind ?_
  rintro past ⟨complete, got⟩ ⟨gathered, all⟩
  cases complete with
  | true =>
    obtain rfl : got = keys := all rfl
    exact ⟨fun _ => ⟨rfl, gathered⟩, nofun⟩
  | false =>
    obtain ⟨rfl, released_eq⟩ := gathered
    refine (conducts_releaseKeys ?_ rfl (by rw [released_eq, List.nil_append])).bind ?_
    · rintro later key same next
      rwa [← same] at next
    · rintro later _ ⟨same, all⟩
      refine ⟨nofun, fun _ _ => ⟨rfl, ?_⟩⟩
      rw [same, all]

theorem conducts_release (keys : List LockKey) (state : LockState) :
    Conducts (MayGiveBack (· <+: (held keys state).reverse))
      (fun past after => after = .released ∧ released past = (held keys state).reverse)
      [] (release keys state) := by
  refine (conducts_releaseKeys ?_ acquired_nil (List.nil_append _)).bind ?_
  · exact fun past key _ next => next
  · exact fun past _ result => ⟨rfl, result.2⟩

theorem conducts_check (keys : List LockKey) (state : LockState) :
    Conducts (MayGiveBack (·.Sublist (held keys state).reverse))
      (fun past result => (result.1 = true → result.2 = state ∧ released past = []) ∧
        (result.1 = false → ∀ key ∈ held keys state, key ∈ released past ∨ FoundLost past key))
      [] (check keys state) := by
  cases state with
  | created => exact ⟨nofun, fun _ => by simp [held]⟩
  | released => exact ⟨nofun, fun _ => by simp [held]⟩
  | locked =>
    refine (conducts_anyLost keys released_nil).bind fun past lost none => ?_
    cases lost with
    | false => exact ⟨fun _ => ⟨rfl, none⟩, nofun⟩
    | true =>
      refine (conducts_notLost keys none).bind fun past left sifted => ?_
      have rest : released past ++ left.reverse = left.reverse := by
        rw [sifted.released_eq, List.nil_append]
      refine ((conducts_releaseKeys ?_ rfl rest).onward (List.prefix_refl past)).bind ?_
      · exact fun _ key _ next => next.sublist.trans sifted.among.reverse
      · rintro later _ ⟨⟨-, all⟩, earlier⟩
        refine ⟨nofun, fun _ key member => ?_⟩
        rw [all, List.mem_reverse]
        exact (sifted.lost key member).imp_right fun found => earlier.subset found

/-! ## Whole conversations -/

/-- A conversation in which keys are passed back. -/
theorem Conducts.gives_back {α : Type} {good : List LockKey → Prop}
    {yields : List Turn → α → Prop} {d rest : Dialogue α}
    (conduct : Conducts (MayGiveBack good) yields [] d) (unfolds : d.Unfolds talk rest)
    (start : good []) : requested talk = [] ∧ good (released talk) := by
  refine conduct.keeps (fun talk => requested talk = [] ∧ good (released talk)) unfolds
    ⟨rfl, start⟩ ?_
  rintro past ⟨inquiry, answer⟩ ⟨requests, fine⟩ permitted
  cases inquiry with
  | release key =>
    rw [requested_concat, released_concat, requests]
    exact ⟨rfl, permitted⟩
  | isHeldBy key =>
    rw [requested_concat, requests, released_isHeldBy]
    exact ⟨rfl, fine⟩
  | lock | start | remaining | expired | pause => exact permitted.elim

/-- Repetitions merged, the requested keys are those acquired and at most one that is still to be
acquired. -/
def Merges (keys : List LockKey) (talk : List Turn) : Prop :=
  ∃ pending : Option LockKey,
    (requested talk).destutter (· ≠ ·) = acquired talk ++ pending.toList ∧
    (requested talk).getLast? = (acquired talk ++ pending.toList).getLast? ∧
    acquired talk ++ pending.toList <+: keys

/-- A key that may be requested is the pending one again, or it is new. -/
theorem Merges.request {attempts : Nat} {key : LockKey} {timeout : Timeout}
    {answer : Except Error Unit} (distinct : keys.Nodup) (merges : Merges keys past)
    (next : acquired past ++ [key] <+: keys) :
    Merges keys (past ++ [⟨.lock attempts key timeout, answer⟩]) := by
  obtain ⟨pending, merged, last, within⟩ := merges
  have step : (requested past ++ [key]).destutter (· ≠ ·) = acquired past ++ [key] := by
    rw [destutter_concat, merged, last]
    cases pending with
    | some other =>
      have same : acquired past ++ [other] = acquired past ++ [key] :=
        (List.prefix_of_prefix_length_le within next (by simp)).eq_of_length (by simp)
      simp [List.append_cancel_left same]
    | none =>
      -- every requested key is acquired, and no key occurs twice
      have new : key ∉ acquired past := by
        intro old
        have apart := (List.nodup_append.mp (next.sublist.nodup distinct)).2.2
        exact apart key old key List.mem_cons_self rfl
      have unasked : (acquired past).getLast? ≠ some key := fun last =>
        new (List.mem_of_getLast? last)
      simp [unasked]
  cases answer with
  | ok _ => exact ⟨none, by simpa [Turn.requested?, Turn.acquired?] using ⟨step, next⟩⟩
  | error e => exact ⟨some key, by simpa [Turn.requested?, Turn.acquired?] using ⟨step, next⟩⟩

/-- A turn that requests nothing changes nothing. -/
theorem Merges.wait {turn : Turn} (merges : Merges keys past) (silent : turn.requested? = none)
    (gains : turn.acquired? = none) : Merges keys (past ++ [turn]) := by
  simpa [Merges, silent, gains] using merges

theorem Merges.merged (merges : Merges keys talk) :
    (requested talk).destutter (· ≠ ·) <+: keys := by
  obtain ⟨pending, merged, -, within⟩ := merges
  rwa [merged]

/-- Whatever is asked while keys are acquired, they are requested in order, and passed back in the
reverse order. -/
theorem Conducts.acquires {α : Type} {yields : List Turn → α → Prop} {d rest : Dialogue α}
    (conduct : Conducts (MayAcquire keys) yields [] d) (distinct : keys.Nodup)
    (unfolds : d.Unfolds talk rest) :
    Merges keys talk ∧ released talk <+: (acquired talk).reverse := by
  refine conduct.keeps (fun talk => Merges keys talk ∧ released talk <+: (acquired talk).reverse)
    unfolds ⟨⟨none, by simp⟩, List.nil_prefix⟩ ?_
  rintro past ⟨inquiry, answer⟩ ⟨merges, reversed⟩ permitted
  cases inquiry with
  | lock attempts key timeout =>
    obtain ⟨none, next⟩ := permitted
    refine ⟨merges.request distinct next, ?_⟩
    simp [Turn.released?, none]
  | release key =>
    have next : released past ++ [key] <+: (acquired past).reverse := permitted
    exact ⟨merges.wait rfl rfl, by simpa [Turn.released?, Turn.acquired?] using next⟩
  | isHeldBy => exact permitted.elim
  | start | remaining | expired | pause =>
    exact ⟨merges.wait rfl rfl, by simpa [Turn.released?, Turn.acquired?] using reversed⟩

end Dialogue

end TransactionKit
