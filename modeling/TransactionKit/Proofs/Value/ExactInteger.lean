import Mathlib.Algebra.Order.Field.Power
import Mathlib.Algebra.Order.Ring.Rat
import Mathlib.Data.Nat.Digits.Defs
import Mathlib.Tactic.Positivity
import Mathlib.Tactic.Ring
import TransactionKit.Value.Coercion

/-!
The integer that a value denotes. `Value.Denotes` says it variant by variant: a double denotes the
number of its bits when that is an integer, and a text the numeral in it. `Value.integer?_eq_some_iff`
compares it with the integer view that rendering is built on: the view is that integer as long as it
has 64 bits, and of a greater double the nearest end of that range.
-/

namespace TransactionKit

/-! ## Numerals -/

namespace Text

/-- The number that decimal digits denote, the last one counting ones. -/
def numberOf (digits : List Char) : Nat :=
  Nat.ofDigits 10 (digits.reverse.map fun c => c.toNat - '0'.toNat)

theorem natOfDigits_eq_numberOf (digits : List Char) : natOfDigits digits = numberOf digits := by
  induction digits using List.reverseRecOn with
  | nil => rfl
  | append_singleton digits c ih =>
    rw [natOfDigits, List.foldl_append, ← natOfDigits, ih]
    simp [numberOf, Nat.ofDigits_cons, add_comm]

/-- The numerals of integers: decimal digits, with a sign before them or not. -/
inductive Numeral : List Char → Int → Prop
  | unsigned {digits : List Char} (nonempty : digits ≠ [])
      (decimal : ∀ c ∈ digits, c.isDigit = true) : Numeral digits (numberOf digits)
  | plus {digits : List Char} (nonempty : digits ≠ [])
      (decimal : ∀ c ∈ digits, c.isDigit = true) : Numeral ('+' :: digits) (numberOf digits)
  | minus {digits : List Char} (nonempty : digits ≠ [])
      (decimal : ∀ c ∈ digits, c.isDigit = true) : Numeral ('-' :: digits) (-numberOf digits)

theorem nat?_eq_some_iff {cs : List Char} {n : Nat} :
    nat? cs = some n ↔ cs ≠ [] ∧ (∀ c ∈ cs, c.isDigit = true) ∧ n = numberOf cs := by
  have refused : (cs.isEmpty || !cs.all Char.isDigit) = false ↔
      cs ≠ [] ∧ ∀ c ∈ cs, c.isDigit = true := by
    simp
  rw [nat?, natOfDigits_eq_numberOf, ← and_assoc, ← refused]
  cases cs.isEmpty || !cs.all Char.isDigit <;> simp [eq_comm]

/-- A run of digits as an integer. -/
theorem natCast_nat?_eq_some_iff {cs : List Char} {i : Int} :
    (nat? cs >>= fun n => pure (n : Int)) = some i ↔
      cs ≠ [] ∧ (∀ c ∈ cs, c.isDigit = true) ∧ i = numberOf cs := by
  simp only [Option.bind_eq_bind, Option.bind_eq_some_iff, nat?_eq_some_iff, Option.pure_def,
    Option.some.injEq]
  constructor
  · rintro ⟨n, ⟨nonempty, decimal, rfl⟩, rfl⟩
    exact ⟨nonempty, decimal, rfl⟩
  · rintro ⟨nonempty, decimal, rfl⟩
    exact ⟨_, ⟨nonempty, decimal, rfl⟩, rfl⟩

/-- The reader of integers reads their numerals and nothing else. -/
theorem int?_eq_some_iff {cs : List Char} {i : Int} : int? cs = some i ↔ Numeral cs i := by
  constructor
  · intro read
    unfold int? at read
    split at read <;> obtain ⟨n, digits, rfl⟩ := Option.map_eq_some_iff.mp read <;>
      obtain ⟨nonempty, decimal, rfl⟩ := natCast_nat?_eq_some_iff.mp digits
    · exact .minus nonempty decimal
    · exact .plus nonempty decimal
    · exact .unsigned nonempty decimal
  · intro numeral
    cases numeral with
    | plus nonempty decimal =>
      exact Option.map_eq_some_iff.mpr
        ⟨_, natCast_nat?_eq_some_iff.mpr ⟨nonempty, decimal, rfl⟩, rfl⟩
    | minus nonempty decimal =>
      exact Option.map_eq_some_iff.mpr
        ⟨_, natCast_nat?_eq_some_iff.mpr ⟨nonempty, decimal, rfl⟩, rfl⟩
    | unsigned nonempty decimal =>
      unfold int?
      split
      · exact absurd (decimal '-' List.mem_cons_self) (by decide)
      · exact absurd (decimal '+' List.mem_cons_self) (by decide)
      · exact Option.map_eq_some_iff.mpr
          ⟨_, natCast_nat?_eq_some_iff.mpr ⟨nonempty, decimal, rfl⟩, rfl⟩

/-- No blank stands in a numeral. -/
theorem Numeral.solid {cs : List Char} {i : Int} (numeral : Numeral cs i) :
    ∀ c ∈ cs, isBlank c = false := by
  have signed {sign : Char} {digits : List Char} (solid : isBlank sign = false)
      (decimal : ∀ c ∈ digits, c.isDigit = true) : ∀ c ∈ sign :: digits, isBlank c = false := by
    rintro c (_ | ⟨_, member⟩)
    · exact solid
    · exact isBlank_of_isDigit (decimal c member)
  cases numeral with
  | unsigned nonempty decimal => exact fun c member => isBlank_of_isDigit (decimal c member)
  | plus nonempty decimal => exact signed rfl decimal
  | minus nonempty decimal => exact signed rfl decimal

/-- A text that consists of the numeral of an integer and of blanks around it. -/
def Spells (cs : List Char) (i : Int) : Prop :=
  ∃ before numeral after, cs = before ++ numeral ++ after ∧ (∀ c ∈ before, isBlank c = true) ∧
    (∀ c ∈ after, isBlank c = true) ∧ Numeral numeral i

theorem spells_iff {cs : List Char} {i : Int} : Spells cs i ↔ int? (trimList cs) = some i := by
  constructor
  · rintro ⟨before, numeral, after, rfl, blankBefore, blankAfter, spelt⟩
    have trimmed : trimList (before ++ numeral ++ after) = numeral :=
      trimList_append blankBefore blankAfter
        (fun c first => spelt.solid c (List.mem_of_mem_head? first))
        fun c last => spelt.solid c (List.mem_of_mem_getLast? last)
    rw [trimmed]
    exact int?_eq_some_iff.mpr spelt
  · intro read
    obtain ⟨before, after, whole, blankBefore, blankAfter⟩ := exists_append_trimList cs
    exact ⟨before, trimList cs, after, whole, blankBefore, blankAfter, int?_eq_some_iff.mp read⟩

end Text

/-! ## Doubles -/

namespace Binary64

/-- The magnitude of a finite pattern: a fraction of fifty-two bits, with a one before the point on
normal numbers, times a power of two. -/
def size (x : Binary64) : ℚ :=
  if x.exponentField = 0 then x.fraction / 2 ^ 52 * 2 ^ (-1022 : ℤ)
  else (1 + x.fraction / 2 ^ 52) * 2 ^ ((x.exponentField : ℤ) - 1023)

/-- The number that a finite pattern stands for. -/
def number (x : Binary64) : ℚ :=
  if x.isNegative then -x.size else x.size

/-- A power of two as a quotient of two whole ones. -/
theorem two_zpow_eq (e : ℤ) : (2 : ℚ) ^ e = 2 ^ e.toNat / 2 ^ (-e).toNat := by
  conv_lhs => rw [← Int.toNat_sub_toNat_neg e]
  rw [zpow_sub₀ two_ne_zero, zpow_natCast, zpow_natCast]

theorem size_eq_significand (x : Binary64) : x.size = x.significand * 2 ^ x.exponent := by
  have lower (e : ℤ) : (2 : ℚ) ^ (e - 52) = 2 ^ e / 2 ^ 52 := by
    rw [zpow_sub₀ two_ne_zero]
    rfl
  unfold size significand exponent
  split
  · rename_i subnormal
    have power : ((max 1 x.exponentField : Nat) : ℤ) - 1075 = -1022 - 52 := by
      rw [subnormal]
      rfl
    rw [power, lower]
    generalize (2 : ℚ) ^ (-1022 : ℤ) = scale
    ring
  · rename_i normal
    have power : ((max 1 x.exponentField : Nat) : ℤ) - 1075 =
        (x.exponentField : ℤ) - 1023 - 52 := by
      rw [max_eq_right (Nat.one_le_iff_ne_zero.mpr normal)]
      ring
    have hidden : ((pow2 52 + x.fraction : Nat) : ℚ) = 2 ^ 52 + x.fraction := by
      rw [Nat.cast_add]
      rfl
    rw [power, lower, hidden]
    generalize (2 : ℚ) ^ ((x.exponentField : ℤ) - 1023) = scale
    ring

/-- The magnitude is the quotient of the two whole numbers that the reader takes for it. -/
theorem size_eq_natCast_iff {x : Binary64} {n : Nat} :
    x.size = n ↔ x.magnitude.1 = n * x.magnitude.2 := by
  have den : (0 : ℚ) < 2 ^ (-x.exponent).toNat := by positivity
  have whole : ((x.significand * pow2 x.exponent.toNat : Nat) : ℚ) =
      x.significand * 2 ^ x.exponent.toNat := by
    rw [Nat.cast_mul]
    exact congrArg _ (Nat.cast_pow 2 _)
  have other : ((n * pow2 (-x.exponent).toNat : Nat) : ℚ) = n * 2 ^ (-x.exponent).toNat := by
    rw [Nat.cast_mul]
    exact congrArg _ (Nat.cast_pow 2 _)
  rw [size_eq_significand, two_zpow_eq, ← mul_div_assoc, div_eq_iff den.ne', ← whole, ← other,
    Nat.cast_inj]
  rfl

theorem size_nonneg (x : Binary64) : 0 ≤ x.size := by
  unfold size
  split <;> positivity

/-- The integer of a double is the number of its bits, where that is an integer. -/
theorem integer?_eq_some_iff {x : Binary64} {i : Int} :
    x.integer? = some i ↔ x.isFinite = true ∧ x.number = i := by
  have den : 0 < x.magnitude.2 := Nat.pow_pos (by decide)
  constructor
  · intro read
    unfold integer? at read
    dsimp only at read
    split at read
    · rename_i whole
      obtain ⟨finite, divides⟩ := whole
      refine ⟨finite, ?_⟩
      have size : x.size = (x.magnitude.1 / x.magnitude.2 : Nat) :=
        size_eq_natCast_iff.mpr (Nat.div_mul_cancel (Nat.dvd_of_mod_eq_zero divides)).symm
      cases read
      rw [number, ← Int.natCast_ediv, size]
      split
      · rw [Int.cast_neg, Int.cast_natCast]
      · rw [Int.cast_natCast]
    · cases read
  · rintro ⟨finite, exact⟩
    have size : x.size = i.natAbs := by
      have nonneg := x.size_nonneg
      unfold number at exact
      rw [Nat.cast_natAbs, Int.cast_abs, ← exact]
      split
      · rw [abs_neg, abs_of_nonneg nonneg]
      · rw [abs_of_nonneg nonneg]
    have multiple := size_eq_natCast_iff.mp size
    have quotient : x.magnitude.1 / x.magnitude.2 = i.natAbs := by
      rw [multiple, Nat.mul_div_cancel _ den]
    have divides : x.magnitude.1 % x.magnitude.2 = 0 := by
      rw [multiple, Nat.mul_mod_left]
    unfold integer?
    dsimp only
    rw [if_pos ⟨finite, divides⟩, ← Int.natCast_ediv, quotient]
    have nonneg := x.size_nonneg
    congr 1
    unfold number at exact
    split
    · rename_i negative
      rw [if_pos negative] at exact
      have nonpos : i ≤ 0 := by
        have below : (i : ℚ) ≤ 0 := by
          rw [← exact]
          exact neg_nonpos.mpr nonneg
        exact_mod_cast below
      omega
    · rename_i positive
      rw [if_neg positive] at exact
      have above : 0 ≤ i := by
        have above : (0 : ℚ) ≤ i := exact ▸ nonneg
        exact_mod_cast above
      omega

end Binary64

/-! ## Values -/

namespace Value

/-- The integer that a value stands for, of any size. -/
inductive Denotes : Value → Int → Prop
  | int (i : Int32) : Denotes (.int i) i.toInt
  | long (i : Int64) : Denotes (.long i) i.toInt
  /-- A character stands for its code point. -/
  | char (c : Char) : Denotes (.char c) c.toNat
  | bool (b : Bool) : Denotes (.bool b) (if b then 1 else 0)
  /-- A constant stands for its place in the declaration. -/
  | enumeration (ordinal : UInt32) (name : String) :
      Denotes (.enumeration ordinal name) ordinal.toNat
  | float {x : Binary64} {i : Int} (finite : x.isFinite = true) (exact : x.number = i) :
      Denotes (.float x) i
  | decimal {s : String} {i : Int} (spells : Text.Spells s.toList i) : Denotes (.decimal s) i
  | raw {s : String} {i : Int} (spells : Text.Spells s.toList i) : Denotes (.raw s) i
  | text {s : String} {i : Int} (spells : Text.Spells s.toList i) : Denotes (.text s) i

theorem denotes_float_iff {x : Binary64} {i : Int} :
    (float x).Denotes i ↔ x.integer? = some i := by
  rw [Binary64.integer?_eq_some_iff]
  constructor
  · rintro (_ | _ | _ | _ | _ | ⟨finite, exact⟩)
    exact ⟨finite, exact⟩
  · rintro ⟨finite, exact⟩
    exact .float finite exact

/-- A value stands for one integer at most. -/
theorem Denotes.unique {v : Value} {i j : Int} (first : v.Denotes i) (second : v.Denotes j) :
    i = j := by
  have spelt {cs : List Char} (one : Text.Spells cs i) (two : Text.Spells cs j) : i = j :=
    Option.some.inj ((Text.spells_iff.mp one).symm.trans (Text.spells_iff.mp two))
  cases first with
  | float finite exact =>
    cases second with
    | float _ other => exact Int.cast_injective (exact.symm.trans other)
  | decimal spells =>
    cases second with
    | decimal other => exact spelt spells other
  | raw spells =>
    cases second with
    | raw other => exact spelt spells other
  | text spells =>
    cases second with
    | text other => exact spelt spells other
  | _ =>
    cases second
    rfl

/-- The integer view of a value that has one of 64 bits at hand. -/
theorem integer?_eq_some_iff_of_denotes {v : Value} {i k : Int} (denotes : v.Denotes k)
    (view : v.integer? = some k) (fits : IsInt64 k) :
    v.integer? = some i ↔
      ∃ j, v.Denotes j ∧ i = clampInt64 j ∧ (IsInt64 j ∨ ∃ x, v = .float x) := by
  rw [view]
  constructor
  · rintro ⟨⟩
    exact ⟨i, denotes, (clampInt64_eq_self fits).symm, .inl fits⟩
  · rintro ⟨j, other, rfl, -⟩
    rw [other.unique denotes, clampInt64_eq_self fits]

/-- The integer view of a text: the integer in it, unless that has more than 64 bits. -/
theorem integer?_eq_some_iff_of_spells {v : Value} {cs : List Char} {i : Int}
    (denotes : ∀ j, v.Denotes j ↔ Text.Spells cs j) (noFloat : ∀ x, v ≠ .float x)
    (view : v.integer? =
      (Text.int? (Text.trimList cs)).filter fun i => decide (IsInt64 i)) :
    v.integer? = some i ↔
      ∃ j, v.Denotes j ∧ i = clampInt64 j ∧ (IsInt64 j ∨ ∃ x, v = .float x) := by
  rw [view, Option.filter_eq_some_iff, decide_eq_true_eq, ← Text.spells_iff, ← denotes]
  constructor
  · rintro ⟨spelt, fits⟩
    exact ⟨i, spelt, (clampInt64_eq_self fits).symm, .inl fits⟩
  · rintro ⟨j, spelt, rfl, fits | ⟨x, float⟩⟩
    · rw [clampInt64_eq_self fits]
      exact ⟨spelt, fits⟩
    · exact absurd float (noFloat x)

/-- The integer view is the integer that the value stands for if it has 64 bits. Of a double with
more bits it is the nearest integer that has 64; any other value with more has none. -/
theorem integer?_eq_some_iff {v : Value} {i : Int} :
    v.integer? = some i ↔
      ∃ j, v.Denotes j ∧ i = clampInt64 j ∧ (IsInt64 j ∨ ∃ x, v = .float x) := by
  cases v with
  | int k =>
    refine integer?_eq_some_iff_of_denotes (.int k) rfl ?_
    have least := k.le_toInt
    have greatest := k.toInt_lt
    unfold IsInt64
    omega
  | long k =>
    refine integer?_eq_some_iff_of_denotes (.long k) rfl ?_
    have least := k.le_toInt
    have greatest := k.toInt_lt
    unfold IsInt64
    omega
  | char c =>
    refine integer?_eq_some_iff_of_denotes (.char c) rfl ?_
    have greatest : c.toNat < 2 ^ 32 := c.val.toNat_lt
    unfold IsInt64
    omega
  | bool b => cases b <;> exact integer?_eq_some_iff_of_denotes (.bool _) rfl (by decide)
  | enumeration ordinal name =>
    refine integer?_eq_some_iff_of_denotes (.enumeration ordinal name) rfl ?_
    have greatest := ordinal.toNat_lt
    unfold IsInt64
    omega
  | float x =>
    simp only [denotes_float_iff, integer?, Option.map_eq_some_iff, eq_comm (a := i)]
    constructor
    · rintro ⟨j, exact, clamped⟩
      exact ⟨j, exact, clamped, .inr ⟨x, rfl⟩⟩
    · rintro ⟨j, exact, clamped, -⟩
      exact ⟨j, exact, clamped⟩
  | decimal s =>
    refine integer?_eq_some_iff_of_spells (fun j => ⟨?_, .decimal⟩) (by simp) rfl
    rintro (_ | _ | _ | _ | _ | _ | spells)
    exact spells
  | raw s =>
    refine integer?_eq_some_iff_of_spells (fun j => ⟨?_, .raw⟩) (by simp) rfl
    rintro (_ | _ | _ | _ | _ | _ | _ | spells)
    exact spells
  | text s =>
    refine integer?_eq_some_iff_of_spells (fun j => ⟨?_, .text⟩) (by simp) rfl
    rintro (_ | _ | _ | _ | _ | _ | _ | _ | spells)
    exact spells
  | _ =>
    constructor
    · intro view
      cases view
    · rintro ⟨j, denotes, -⟩
      cases denotes

end Value

end TransactionKit
