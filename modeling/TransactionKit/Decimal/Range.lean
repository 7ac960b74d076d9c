/-!
The ranges of integers of 32 and of 64 bits, in two's complement. Numbers are integers of any size
everywhere else, and a range is a condition on them.
-/

namespace TransactionKit

/-- The integers of 32 bits. -/
def IsInt32 (i : Int) : Prop :=
  -2147483648 ≤ i ∧ i ≤ 2147483647

/-- The integers of 64 bits. -/
def IsInt64 (i : Int) : Prop :=
  -9223372036854775808 ≤ i ∧ i ≤ 9223372036854775807

instance (i : Int) : Decidable (IsInt32 i) := by
  unfold IsInt32
  infer_instance

instance (i : Int) : Decidable (IsInt64 i) := by
  unfold IsInt64
  infer_instance

/-- The nearest integer of 64 bits. -/
def clampInt64 (i : Int) : Int :=
  max (-9223372036854775808) (min i 9223372036854775807)

theorem isInt64_clampInt64 (i : Int) : IsInt64 (clampInt64 i) := by
  unfold IsInt64 clampInt64
  omega

theorem clampInt64_eq_self {i : Int} (h : IsInt64 i) : clampInt64 i = i := by
  unfold IsInt64 at h
  unfold clampInt64
  omega

end TransactionKit
