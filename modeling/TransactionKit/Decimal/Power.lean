/-!
Powers of two and of ten: the scales of binary and of decimal numbers.
-/

namespace TransactionKit

/-- A power of two. -/
abbrev pow2 (n : Nat) : Nat :=
  Nat.pow 2 n

/-- A power of ten. -/
abbrev pow10 (n : Nat) : Nat :=
  Nat.pow 10 n

end TransactionKit
