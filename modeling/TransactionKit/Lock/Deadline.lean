import TransactionKit.Routine

/-!
Timeouts and the deadlines they become. A timeout that never ends has no deadline, and nothing is
asked of the clock for it.
-/

namespace TransactionKit

/-- How long to wait. -/
inductive Timeout where
  | after (nanos : Nat)
  | never
deriving DecidableEq, Repr, Inhabited

/-- The moment at which waiting ends, if it ever does. -/
structure Deadline where
  moment? : Option Int
deriving DecidableEq, Repr, Inhabited

namespace Timeout

/-- A timeout in milliseconds. -/
def ofMs (ms : Nat) : Timeout :=
  .after (ms * LockConfig.nanosPerMs)

/-- The shorter of a pause and a timeout. -/
def cap (timeout : Timeout) (pause : Nat) : Nat :=
  match timeout with
  | .after nanos => min pause nanos
  | .never => pause

end Timeout

namespace Deadline

/-- The deadline of a timeout that starts now. -/
def after : Timeout → Routine Deadline
  | .after nanos => do return ⟨some ((← Routine.now) + nanos)⟩
  | .never => return ⟨none⟩

/-- Whether the deadline is reached. -/
def expired (deadline : Deadline) : Routine Bool :=
  match deadline.moment? with
  | some moment => do return moment ≤ (← Routine.now)
  | none => return false

/-- The time left. -/
def remaining (deadline : Deadline) : Routine Timeout :=
  match deadline.moment? with
  | some moment => do return .after (moment - (← Routine.now)).toNat
  | none => return .never

/-- Sleep for a pause, but not beyond the deadline. -/
def pause (deadline : Deadline) (nanos : Nat) : Routine Unit := do
  Routine.sleep ((← deadline.remaining).cap nanos)

end Deadline

end TransactionKit
