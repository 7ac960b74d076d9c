import TransactionKit.Proofs.Transaction.Dialogue
import TransactionKit.Proofs.Transaction.Representation

/-!
The dialogue that a user of a transaction lock has with the strategy. Every operation on a lock is a
dialogue that depends on the settings of the strategy, on the keys in ascending order and on the
state of the lock only. What a user does with a lock is carried out as its dialogue, with the
strategy and the owner of that lock: `TransactionLock.Bears.routine_eq`.
-/

namespace TransactionKit

/-- What a user does with its lock, each time according to what came of it before. Other locks can
be nested in it, each of them freshly made, and left again. -/
inductive LockUsage where
  | stop
  | lock (rounds : Nat) (timeout? : Option Timeout) (next : Except Error Unit → LockUsage)
  | check (next : Bool → LockUsage)
  | release (next : LockUsage)
  | nest (backend : Backend) (owner : Owner) (relaxed : Bool)
      (objects : List (LockKey × Option Entity)) (next : LockUsage)
  | unnest (next : LockUsage)

/-- How a lock is used. -/
def LockUsage.routine : LockUsage → TransactionLock → Routine Unit
  | stop, _ => return ()
  | lock rounds timeout? next, this => do
    let (answer, after) ← this.lockWithin rounds timeout?
    (next answer).routine after
  | check next, this => do
    let (valid, after) ← this.isLocked
    (next valid).routine after
  | release next, this => do
    let after ← this.release
    next.routine after
  | nest backend owner relaxed objects next, this => do
    let (_, after) ← this.pushNested (.ofObjects backend owner relaxed objects)
    next.routine after
  | unnest next, this => do
    let (_, after) ← this.popNested
    next.routine after

/-! ## Operations as dialogues -/

namespace Dialogue

/-- Acquire one key. -/
def acquireKey (config : LockConfig) (attempts : Nat) (key : LockKey) : Nat → Dialogue Bool
  | 0 => starved
  | rounds + 1 => do
    match ← inquire (.lock attempts key (← inquire .remaining)) with
    | .ok () => return true
    | .error _ =>
      if ← inquire .expired then return false
      else
        inquire (.pause config.pollInterval)
        acquireKey config attempts key rounds

/-- Acquire keys until one is not acquired. -/
def acquireKeys (config : LockConfig) (rounds : Nat) :
    List LockKey → List LockKey → Dialogue (Bool × List LockKey)
  | acquired, [] => return (true, acquired)
  | acquired, key :: rest => do
    if ← acquireKey config rounds key rounds then
      acquireKeys config rounds (acquired ++ [key]) rest
    else return (false, acquired)

/-- Release keys one after the other. -/
def releaseKeys : List LockKey → Dialogue Unit
  | [] => return ()
  | key :: rest => do
    let _ ← inquire (.release key)
    releaseKeys rest

/-- Whether one of the keys is known to be lost. -/
def anyLost : List LockKey → Dialogue Bool
  | [] => return false
  | key :: rest => do
    match ← inquire (.isHeldBy key) with
    | .ok false => return true
    | _ => anyLost rest

/-- The keys that are not known to be lost. -/
def notLost : List LockKey → Dialogue (List LockKey)
  | [] => return []
  | key :: rest => do
    match ← inquire (.isHeldBy key) with
    | .ok false => notLost rest
    | _ => return key :: (← notLost rest)

/-- The keys that a lock in a state has acquired. -/
def held (keys : List LockKey) : LockState → List LockKey
  | .locked => keys
  | .created | .released => []

/-- Acquire every key, within the default timeout if none is given, and give back what was acquired
if one of them is not. -/
def lock (config : LockConfig) (keys : List LockKey) (rounds : Nat) (timeout? : Option Timeout) :
    LockState → Dialogue (Except Error Unit × LockState)
  | .created => do
    inquire (.start (timeout?.getD (.after config.defaultTimeout)))
    let (complete, acquired) ← acquireKeys config rounds [] keys
    if complete then return (.ok (), .locked)
    else
      releaseKeys acquired.reverse
      return (.error (.lockTimeout (keys.map LockKey.text)), .created)
  | .locked => return (.ok (), .locked)
  | .released =>
    return (.error (if timeout?.isSome then TransactionLock.releasedForGood
      else TransactionLock.noBackend), .released)

/-- Give the acquired keys back. -/
def release (keys : List LockKey) (state : LockState) : Dialogue LockState := do
  releaseKeys (held keys state).reverse
  return .released

/-- Check the acquired keys, and give back those that are left if one is lost. -/
def check (keys : List LockKey) : LockState → Dialogue (Bool × LockState)
  | .locked => do
    if ← anyLost keys then
      let left ← notLost keys
      releaseKeys left.reverse
      return (false, .released)
    else return (true, .locked)
  | state => return (false, state)

end Dialogue

/-- The dialogue of a user whose lock is in a state. -/
def LockUsage.dialogue (config : LockConfig) (keys : List LockKey) :
    LockUsage → LockState → Dialogue Unit
  | stop, _ => return ()
  | lock rounds timeout? next, state => do
    let (answer, after) ← Dialogue.lock config keys rounds timeout? state
    (next answer).dialogue config keys after
  | check next, state => do
    let (valid, after) ← Dialogue.check keys state
    (next valid).dialogue config keys after
  | release next, state => do
    let after ← Dialogue.release keys state
    next.dialogue config keys after
  | nest _ _ _ _ next, state => next.dialogue config keys state
  | unnest next, state => next.dialogue config keys state

/-! ## Dialogues as operations -/

namespace Dialogue

variable {α : Type} {backend : Backend} {owner : Owner} {deadline : Deadline}

theorem routine_acquireKey_bind {attempts : Nat} {key : LockKey} (rounds : Nat)
    (g : Bool → Dialogue α) :
    (acquireKey backend.config attempts key rounds >>= g).routine backend owner deadline =
      TransactionLock.acquireKey attempts backend owner deadline key rounds >>= fun got =>
        (g got).routine backend owner deadline := by
  induction rounds with
  | zero => rfl
  | succ rounds hypothesis =>
    simp only [acquireKey, TransactionLock.acquireKey, inquire, ask_bind, done_bind, routine,
      Inquiry.routine, bind_assoc, pure_bind]
    refine bind_congr fun timeout => bind_congr fun answer => ?_
    cases answer with
    | ok _ => rfl
    | error e =>
      simp only [ask_bind, routine, Inquiry.routine, bind_assoc, pure_bind]
      refine bind_congr fun expired => ?_
      cases expired with
      | true => rfl
      | false =>
        simp only [Bool.false_eq_true, if_false, ask_bind, routine, Inquiry.routine, bind_assoc,
          pure_bind]
        exact bind_congr fun _ => hypothesis

theorem routine_acquireKeys_bind {rounds : Nat} {acquired : List LockKey} (keys : List LockKey)
    (g : Bool × List LockKey → Dialogue α) :
    (acquireKeys backend.config rounds acquired keys >>= g).routine backend owner deadline =
      TransactionLock.acquireKeys rounds backend owner deadline acquired keys >>= fun result =>
        (g result).routine backend owner deadline := by
  induction keys generalizing acquired with
  | nil => rfl
  | cons key rest hypothesis =>
    simp only [acquireKeys, TransactionLock.acquireKeys, bind_assoc, routine_acquireKey_bind]
    refine bind_congr fun got => ?_
    cases got with
    | true => exact hypothesis
    | false => rfl

theorem routine_releaseKeys_bind (keys : List LockKey) (g : Unit → Dialogue α) :
    (releaseKeys keys >>= g).routine backend owner deadline =
      TransactionLock.releaseKeys backend owner keys >>= fun _ =>
        (g ()).routine backend owner deadline := by
  induction keys with
  | nil => rfl
  | cons key rest hypothesis =>
    simp only [releaseKeys, TransactionLock.releaseKeys, inquire, ask_bind, done_bind, routine,
      Inquiry.routine, bind_assoc, pure_bind]
    exact bind_congr fun _ => hypothesis

theorem routine_anyLost_bind (keys : List LockKey) (g : Bool → Dialogue α) :
    (anyLost keys >>= g).routine backend owner deadline =
      TransactionLock.anyLost backend owner keys >>= fun lost =>
        (g lost).routine backend owner deadline := by
  induction keys with
  | nil => rfl
  | cons key rest hypothesis =>
    simp only [anyLost, TransactionLock.anyLost, inquire, ask_bind, done_bind, routine,
      Inquiry.routine, bind_assoc, pure_bind]
    refine bind_congr fun answer => ?_
    match answer with
    | .ok false => rfl
    | .ok true => exact hypothesis
    | .error e => exact hypothesis

theorem routine_notLost_bind (keys : List LockKey) (g : List LockKey → Dialogue α) :
    (notLost keys >>= g).routine backend owner deadline =
      TransactionLock.notLost backend owner keys >>= fun left =>
        (g left).routine backend owner deadline := by
  induction keys generalizing g with
  | nil => rfl
  | cons key rest hypothesis =>
    simp only [notLost, TransactionLock.notLost, inquire, ask_bind, done_bind, routine,
      Inquiry.routine, bind_assoc, pure_bind]
    refine bind_congr fun answer => ?_
    match answer with
    | .ok false => exact hypothesis g
    | .ok true | .error e => simp only [bind_assoc, hypothesis, pure_bind]

end Dialogue

namespace TransactionLock

variable {backend : Backend} {owner : Owner} {deadline : Deadline} {keys : List LockKey}
  {state : LockState} {this : TransactionLock}

/-- A lock of an owner on some keys of a backend, in one of its states. -/
structure Bears (backend : Backend) (owner : Owner) (keys : List LockKey) (state : LockState)
    (this : TransactionLock) : Prop where
  standing : this.Standing
  owner_eq : this.owner = owner
  state_eq : this.state = state
  covers : state ≠ .released → this.backend? = some backend ∧ this.keys = keys

theorem Bears.finished (bears : this.Bears backend owner keys state) :
    this.finished.Bears backend owner keys .released :=
  ⟨this.standing_finished, bears.owner_eq, rfl, fun unreleased => absurd rfl unreleased⟩

/-- A lock that is used has the default timeout of its backend. -/
theorem Bears.lockWithin_eq (bears : this.Bears backend owner keys state)
    (unreleased : state ≠ .released) (rounds : Nat) (timeout? : Option Timeout) :
    this.lockWithin rounds timeout? =
      this.lock rounds (timeout?.getD (.after backend.config.defaultTimeout)) := by
  obtain ⟨backend?, -⟩ := bears.covers unreleased
  cases timeout? with
  | some timeout => rfl
  | none => simp only [lockWithin, lockDefault, defaultTimeout, backend?, Option.getD_none]

theorem Bears.lockWithin_bind {rounds : Nat} {timeout? : Option Timeout}
    (bears : this.Bears backend owner keys state)
    {f : Except Error Unit × TransactionLock → Routine Unit}
    {g : Except Error Unit × LockState → Dialogue Unit}
    (same : ∀ answer after lock, Bears backend owner keys after lock →
      ∀ deadline, f (answer, lock) = (g (answer, after)).routine backend owner deadline) :
    this.lockWithin rounds timeout? >>= f =
      (Dialogue.lock backend.config keys rounds timeout? state >>= g).routine
        backend owner deadline := by
  cases state with
  | created =>
    rw [bears.lockWithin_eq (by decide)]
    obtain ⟨standing, rfl, state_eq, covers⟩ := bears
    cases standing with
    | released => cases state_eq
    | locked => cases state_eq
    | created objects own owner relaxed =>
      obtain ⟨⟨⟩, rfl⟩ := covers (by decide)
      simp only [TransactionLock.lock, Dialogue.lock, Dialogue.inquire, Dialogue.ask_bind,
        Dialogue.done_bind, Dialogue.routine, Inquiry.routine, bind_assoc, pure_bind,
        Dialogue.routine_acquireKeys_bind]
      refine bind_congr fun deadline => (returns_acquireKeys _).bind_congr ?_
      rintro ⟨complete, acquired⟩ all
      cases complete with
      | true =>
        obtain rfl : acquired = objects.keys := all rfl
        have standing := Standing.locked objects backend owner relaxed [] (by simp) (by simp)
        exact same _ .locked _ ⟨standing, rfl, rfl, fun _ => ⟨rfl, rfl⟩⟩ deadline
      | false =>
        simp only [Bool.false_eq_true, if_false, bind_assoc, pure_bind,
          Dialogue.routine_releaseKeys_bind]
        refine bind_congr fun _ => ?_
        exact same _ _ _ ⟨.created .., rfl, rfl, fun _ => ⟨rfl, rfl⟩⟩ deadline
  | locked =>
    rw [bears.lockWithin_eq (by decide)]
    simp only [TransactionLock.lock, bears.state_eq]
    exact same _ _ _ bears deadline
  | released =>
    have standing := bears.standing
    have state_eq := bears.state_eq
    cases standing with
    | created => cases state_eq
    | locked => cases state_eq
    | released owner relaxed =>
      cases timeout? with
      | none => exact same _ _ _ bears deadline
      | some timeout => exact same _ _ _ bears deadline

/-- What a lock gives back when it is released is what its state says. -/
theorem Bears.giveBack_eq (bears : this.Bears backend owner keys state) :
    this.giveBack = releaseKeys backend owner (Dialogue.held keys state).reverse := by
  obtain ⟨standing, rfl, rfl, covers⟩ := bears
  cases standing with
  | created objects own => rfl
  | locked objects own =>
    obtain ⟨⟨⟩, rfl⟩ := covers nofun
    rfl
  | released => rfl

theorem Bears.release_bind (bears : this.Bears backend owner keys state)
    {f : TransactionLock → Routine Unit} {g : LockState → Dialogue Unit}
    (same : ∀ after lock, Bears backend owner keys after lock →
      ∀ deadline, f lock = (g after).routine backend owner deadline) :
    this.release >>= f =
      (Dialogue.release keys state >>= g).routine backend owner deadline := by
  rw [bears.standing.release_eq, bears.giveBack_eq]
  simp only [Dialogue.release, bind_assoc, pure_bind, Dialogue.routine_releaseKeys_bind]
  exact bind_congr fun _ => same _ _ bears.finished deadline

theorem Bears.isLocked_bind (bears : this.Bears backend owner keys state)
    {f : Bool × TransactionLock → Routine Unit} {g : Bool × LockState → Dialogue Unit}
    (same : ∀ valid after lock, Bears backend owner keys after lock →
      ∀ deadline, f (valid, lock) = (g (valid, after)).routine backend owner deadline) :
    this.isLocked >>= f =
      (Dialogue.check keys state >>= g).routine backend owner deadline := by
  cases state with
  | created =>
    simp only [isLocked, bears.state_eq]
    exact same _ _ _ bears deadline
  | released =>
    simp only [isLocked, bears.state_eq]
    exact same _ _ _ bears deadline
  | locked =>
    have ⟨standing, owner_eq, state_eq, covers⟩ := bears
    subst owner_eq
    cases standing with
    | created => cases state_eq
    | released => cases state_eq
    | locked objects own owner relaxed nested admitted covered =>
      obtain ⟨⟨⟩, rfl⟩ := covers (by decide)
      simp only [isLocked, Dialogue.check, bind_assoc, Dialogue.routine_anyLost_bind]
      refine bind_congr fun lost => ?_
      cases lost with
      | false => exact same _ _ _ bears deadline
      | true =>
        simp only [if_true, bind_assoc, pure_bind, Dialogue.routine_notLost_bind]
        refine bind_congr fun left => ?_
        rw [release_eq_of_admitted (by simp) (by simp) admitted]
        simp only [giveBack, bind_assoc, Dialogue.routine_releaseKeys_bind]
        exact bind_congr fun _ => same _ _ _ bears.finished deadline

/-- Nesting a lock that was just made asks for nothing. -/
theorem Bears.exists_pushNested_eq (bears : this.Bears backend owner keys state)
    {inner : TransactionLock} (fresh : inner.Standing) (created : inner.state = .created) :
    ∃ answer after, this.pushNested inner = .done (answer, after) ∧
      after.Bears backend owner keys state := by
  unfold pushNested
  split
  · rw [fresh.discard_eq_of_created created]
    exact ⟨_, this, rfl, bears⟩
  · rename_i admits
    have standing := bears.standing.nest fresh admits
    exact ⟨_, _, rfl, standing, bears.owner_eq, bears.state_eq, bears.covers⟩

/-- Leaving a level asks for nothing. -/
theorem Bears.exists_popNested_eq (bears : this.Bears backend owner keys state) :
    ∃ popped? after, this.popNested = .done (popped?, after) ∧
      after.Bears backend owner keys state := by
  rcases List.eq_nil_or_concat this.nested with flat | ⟨others, inner, nested⟩
  · exact ⟨_, this, popNested_of_nil flat, bears⟩
  · rw [List.concat_eq_append] at nested
    have fewer : others.Sublist this.nested := nested ▸ List.sublist_append_left ..
    exact ⟨_, _, bears.standing.popNested_eq nested, bears.standing.dropNested fewer,
      bears.owner_eq, bears.state_eq, bears.covers⟩

/-- What a user does with a lock is its dialogue with the strategy of the lock. -/
theorem Bears.routine_eq (bears : this.Bears backend owner keys state) (usage : LockUsage) :
    usage.routine this =
      (usage.dialogue backend.config keys state).routine backend owner deadline := by
  induction usage generalizing this state deadline with
  | stop => rfl
  | lock rounds timeout? next hypothesis =>
    exact bears.lockWithin_bind fun answer _ _ bears _ => hypothesis answer bears
  | check next hypothesis =>
    exact bears.isLocked_bind fun valid _ _ bears _ => hypothesis valid bears
  | release next hypothesis => exact bears.release_bind fun _ _ bears _ => hypothesis bears
  | nest other another relaxed objects next hypothesis =>
    obtain ⟨answer, after, pushed, bears⟩ :=
      bears.exists_pushNested_eq (standing_ofObjects other another relaxed objects) rfl
    rw [LockUsage.routine, pushed]
    exact hypothesis bears
  | unnest next hypothesis =>
    obtain ⟨popped?, after, popped, bears⟩ := bears.exists_popNested_eq
    rw [LockUsage.routine, popped]
    exact hypothesis bears

end TransactionLock

end TransactionKit
