import TransactionKit.Proofs.Lock.Interleaving
import TransactionKit.Scenario.World

/-!
The lock table behind a backend of a scenario. While no probe changes records behind the back of
the callers, the world of a scenario answers the calls to a backend in memory as
`RecordTable.answer` does, the planned failures being the faults. So what is proved about clients of
a table whose calls interleave is about the world that scenarios run in.
-/

namespace TransactionKit

/-- The backend that a call is made to. -/
def Call.backend? : Call → Option Backend
  | request backend _ => some backend
  | create backend _ => some backend
  | read backend _ => some backend
  | remove backend _ _ => some backend
  | now | sleep _ | connect _ | commit _ | rollback _ | close _ => none

namespace Scenario

/-- A probe that only watches and makes calls fail. -/
structure Probe.Calm (probe : Probe) : Prop where
  swaps : probe.swaps = []
  vacancies : probe.vacancies = []

theorem Probe.Calm.countInsertion {probe : Probe} (calm : probe.Calm) (key : LockKey) :
    probe.countInsertion key = (false, probe) := by
  simp [Probe.countInsertion, calm.vacancies]

theorem Probe.Calm.takeSwap {probe : Probe} (calm : probe.Calm) (key : LockKey) :
    probe.takeSwap key = (none, probe) := by
  obtain ⟨swaps, vacancies⟩ := calm
  cases probe
  cases swaps
  rfl

namespace World

/-- A backend has its records in a table in memory, its probe, if it has one, leaves them alone, and
the clock shows a time. -/
structure Keeps (world : World) (backend : Backend) (table : RecordTable) (time : Int) : Prop where
  clock : world.time = time
  site : ∃ probe?, world.sites[backend.id]? = some ⟨.memory table, probe?⟩ ∧
    ∀ probe ∈ probe?, probe.Calm

variable {world : World} {backend : Backend} {table : RecordTable} {time : Int}

theorem Keeps.calm (keeps : world.Keeps backend table time) {probe : Probe}
    (asked : world.probe? backend = some probe) : probe.Calm := by
  obtain ⟨probe?, site, calm⟩ := keeps.site
  rw [World.probe?, site] at asked
  exact calm probe asked

theorem Keeps.mapProbe (keeps : world.Keeps backend table time) {f : Probe → Probe}
    (calm : ∀ probe, probe.Calm → (f probe).Calm) :
    (world.mapProbe backend f).Keeps backend table time := by
  obtain ⟨probe?, site, calmBefore⟩ := keeps.site
  refine ⟨keeps.clock, probe?.map f, ?_, ?_⟩
  · simp [World.mapProbe, site]
  · intro after member
    obtain ⟨probe, before, rfl⟩ := Option.map_eq_some_iff.mp member
    exact calm probe (calmBefore probe before)

/-- Asking the probe changes no record. -/
theorem Keeps.askProbe {α : Type} (keeps : world.Keeps backend table time) (default : α)
    {question : Probe → α × Probe} (calm : ∀ probe, probe.Calm → (question probe).2.Calm) :
    (world.askProbe backend default question).2.Keeps backend table time := by
  unfold World.askProbe
  cases asked : world.probe? backend with
  | none => exact keeps
  | some probe => exact keeps.mapProbe fun _ _ => calm probe (keeps.calm asked)

/-- A probe without plans answers what is answered without one. -/
theorem Keeps.askProbe_calm {α : Type} (keeps : world.Keeps backend table time) {default : α}
    {question : Probe → α × Probe} (quiet : ∀ probe, probe.Calm → question probe = (default, probe)) :
    ∃ after, world.askProbe backend default question = (default, after) ∧
      after.Keeps backend table time := by
  have calm : ∀ probe : Probe, probe.Calm → (question probe).2.Calm := by
    intro probe calm
    rw [quiet probe calm]
    exact calm
  refine ⟨_, ?_, keeps.askProbe default calm⟩
  unfold World.askProbe
  cases asked : world.probe? backend with
  | none => rfl
  | some probe => simp only [quiet probe (keeps.calm asked)]

/-- An access is one to the table. -/
theorem Keeps.access {α : Type} (keeps : world.Keeps backend table time)
    (inMemory : RecordTable → α × RecordTable)
    (inDatabase : Database → Except Error α × Database) :
    (world.access backend inMemory inDatabase).1 = .ok (inMemory table).1 ∧
      (world.access backend inMemory inDatabase).2.Keeps backend (inMemory table).2 time := by
  obtain ⟨probe?, site, calm⟩ := keeps.site
  unfold World.access
  rw [site]
  refine ⟨rfl, keeps.clock, probe?, ?_, calm⟩
  have inside : backend.id < world.sites.length := (List.getElem?_eq_some_iff.mp site).1
  simp [inside]

/-- A call under observation fails without an effect or is made. -/
theorem Keeps.observed {α : Type} (keeps : world.Keeps backend table time) (kind : CallKind)
    (line : String) {make : World → Except Error α × World} {result : α × RecordTable}
    (made : ∀ w, w.Keeps backend table time →
      (make w).1 = .ok result.1 ∧ (make w).2.Keeps backend result.2 time) :
    ∃ fault?, (world.observed backend kind line make).1 = (table.access fault? result).1 ∧
      (world.observed backend kind line make).2.Keeps backend (table.access fault? result).2
        time := by
  have calm : ∀ probe : Probe, probe.Calm → (probe.note kind line).2.Calm :=
    fun _ calm => ⟨calm.swaps, calm.vacancies⟩
  have asked := keeps.askProbe (.ok ()) calm
  unfold World.observed
  cases reply : world.askProbe backend (.ok ()) fun probe => probe.note kind line with
  | mk verdict later =>
      rw [reply] at asked
      cases verdict with
      | ok _ => exact ⟨none, made later asked⟩
      | error e => exact ⟨some e, rfl, asked⟩

/-- The world of a scenario answers the calls to a backend in memory as the table behind it does,
with the planned failures of its probe for faults. -/
theorem Keeps.answer (keeps : world.Keeps backend table time) {c : Call}
    (target : c.backend? = some backend) :
    ∃ fault?, (World.answer c world).1 = (RecordTable.answer time fault? c table).1 ∧
      (World.answer c world).2.Keeps backend (RecordTable.answer time fault? c table).2 time := by
  cases c with
  | request _ key =>
      cases target
      exact keeps.observed .request _ fun w kept => ⟨rfl, kept⟩
  | create _ record =>
      cases target
      refine keeps.observed .create _ fun w kept => ?_
      obtain ⟨after, asked, kept⟩ :=
        kept.askProbe_calm fun probe calm => calm.countInsertion record.key
      rw [asked]
      exact kept.access (·.create record) _
  | read _ key =>
      cases target
      refine keeps.observed .read _ fun w kept => ?_
      have read : (w.read backend key).1 = .ok (table.read key) ∧
          (w.read backend key).2.Keeps backend table time :=
        kept.access (fun table => (table.read key, table)) _
      cases reply : w.read backend key with
      | mk answer later =>
          rw [reply] at read
          obtain ⟨answered, kept⟩ := read
          cases answered
          cases found : table.read key with
          | none => exact ⟨rfl, kept⟩
          | some record =>
              obtain ⟨after, asked, kept⟩ :=
                kept.askProbe_calm fun probe calm => calm.takeSwap key
              simp only [asked]
              exact ⟨trivial, kept⟩
  | remove _ key owner? =>
      cases target
      exact keeps.observed .remove _ fun w kept => kept.access (·.remove key owner?) _
  | now => cases target
  | sleep nanos => cases target
  | connect store => cases target
  | commit connection => cases target
  | rollback connection => cases target
  | close connection => cases target

end World

end Scenario

end TransactionKit
