import Mathlib.Algebra.Ring.Nat
import Mathlib.Data.List.TakeWhile
import TransactionKit.Text.Numeral
import TransactionKit.Text.Reader

/-!
What readers make of a written text. `Reader.Takes` says that a reader, put before a text and what
follows it, takes just the text and gives a result. One reader after another takes one text after
another (`Reader.Takes.bind`), so a reader of a compound text is followed through part by part. The
last section is about decimal numerals: whatever the zeros before it, a numeral denotes the number
that it was written for.
-/

namespace TransactionKit.Text

namespace Reader

variable {α β : Type}

/-- Before `rest`, the reader takes `cs` and makes `a` of it. -/
def Takes (r : Reader α) (cs : List Char) (a : α) (rest : List Char) : Prop :=
  r (cs ++ rest) = some (a, rest)

section Takes

variable {r : Reader α} {f : α → Reader β} {cs ds rest : List Char} {a : α} {b : β}

theorem takes_pure (a : α) (rest : List Char) : Takes (pure a) [] a rest :=
  rfl

theorem Takes.bind (first : r.Takes cs a (ds ++ rest)) (second : (f a).Takes ds b rest) :
    Takes (r >>= f) (cs ++ ds) b rest := by
  have start : r (cs ++ ds ++ rest) = some (a, ds ++ rest) := by
    rw [List.append_assoc]
    exact first
  change (r (cs ++ ds ++ rest)).bind (fun p => f p.1 p.2) = some (b, rest)
  rw [start]
  exact second

/-- What follows the first reader may take nothing. -/
theorem Takes.andThen (first : r.Takes cs a rest) (second : (f a).Takes [] b rest) :
    Takes (r >>= f) cs b rest := by
  have both : Takes (r >>= f) (cs ++ []) b rest := Takes.bind first second
  rwa [List.append_nil] at both

theorem Takes.map (taken : r.Takes cs a rest) (g : α → β) :
    Takes (r >>= fun a => pure (g a)) cs (g a) rest :=
  taken.andThen (takes_pure (g a) rest)

/-- A reader that cannot go on after its first part fails. -/
theorem Takes.bind_eq_none (first : r.Takes cs a rest) (second : f a rest = none) :
    (r >>= f) (cs ++ rest) = none := by
  change (r (cs ++ rest)).bind (fun p => f p.1 p.2) = none
  rw [first]
  exact second

theorem whole?_of_takes (taken : r.Takes cs a []) : r.whole? cs = some a := by
  rw [whole?, ← List.append_nil cs, taken]

theorem whole?_eq_none (failed : r cs = none) : r.whole? cs = none := by
  rw [whole?, failed]

end Takes

theorem takes_liftM {found : Option α} {a : α} (some : found = some a) (rest : List Char) :
    Takes (liftM found) [] a rest := by
  rw [some]
  rfl

theorem takes_mark (c : Char) (rest : List Char) : (mark c).Takes [c] () rest :=
  if_pos rfl

section Runs

variable {accepts : Char → Bool} {run rest : List Char}

/-- A run is taken to its end, which is where the test fails for the first time. -/
theorem takes_takeWhile1 (nonempty : run ≠ []) (accepted : ∀ c ∈ run, accepts c = true)
    (stops : ∀ c ∈ rest.head?, accepts c = false) : (takeWhile1 accepts).Takes run run rest := by
  have ends : rest.takeWhile accepts = [] ∧ rest.dropWhile accepts = rest := by
    cases rest with
    | nil => exact ⟨rfl, rfl⟩
    | cons c rest =>
      have refused : ¬accepts c = true := by simp [stops c rfl]
      exact ⟨List.takeWhile_cons_of_neg refused, List.dropWhile_cons_of_neg refused⟩
  have taken : (takeWhile accepts).Takes run run rest := by
    rw [Takes, takeWhile, List.takeWhile_append_of_pos accepted,
      List.dropWhile_append_of_pos accepted, ends.1, ends.2, List.append_nil]
  refine taken.andThen ?_
  rw [if_neg (by simpa using nonempty)]
  exact takes_pure run rest

/-- A run of the greatest width is taken whatever follows it. -/
theorem takes_takeUpTo (nonempty : run ≠ []) (accepted : ∀ c ∈ run, accepts c = true) :
    (takeUpTo run.length accepts).Takes run run rest := by
  have all : ((run ++ rest).take run.length).takeWhile accepts = run := by
    rw [List.take_left, List.takeWhile_eq_self_iff]
    exact accepted
  have taken : takeUpTo run.length accepts (run ++ rest) =
      if run.isEmpty then none else some (run, rest) := by
    simp only [takeUpTo, all, List.drop_left]
  rw [Takes, taken, if_neg]
  simpa using nonempty

/-- Where the first character is refused, there is no run to read. -/
theorem takeUpTo_eq_none (stops : ∀ c ∈ rest.head?, accepts c = false) (width : Nat) :
    takeUpTo width accepts rest = none := by
  have nothing : (rest.take width).takeWhile accepts = [] := by
    cases rest with
    | nil => rw [List.take_nil, List.takeWhile_nil]
    | cons c rest =>
      cases width with
      | zero => rfl
      | succ width =>
        exact List.takeWhile_cons_of_neg (by simp [stops c rfl])
  simp only [takeUpTo, nothing]
  rfl

end Runs

end Reader

/-! ## Numerals with zeros before them -/

variable (width n : Nat)

theorem natOfDigits_zeroPadded : natOfDigits (zeroPadded width n) = n := by
  change Nat.ofDigitChars 10 (List.replicate _ '0' ++ Nat.toDigits 10 n) 0 = n
  rw [Nat.ofDigitChars_append, Nat.ofDigitChars_replicate_zero, Nat.mul_zero,
    Nat.ofDigitChars_toDigits (by decide) (by decide)]

/-- Zeros after a numeral are places that it is moved up by. -/
theorem natOfDigits_append_zeros (digits : List Char) (places : Nat) :
    natOfDigits (digits ++ List.replicate places '0') = 10 ^ places * natOfDigits digits := by
  change Nat.ofDigitChars 10 (digits ++ _) 0 = _ * Nat.ofDigitChars 10 digits 0
  rw [Nat.ofDigitChars_append, Nat.ofDigitChars_replicate_zero]

theorem zeroPadded_ne_nil : zeroPadded width n ≠ [] :=
  List.append_ne_nil_of_right_ne_nil _ Nat.toDigits_ne_nil

theorem isDigit_of_mem_zeroPadded {c : Char} (member : c ∈ zeroPadded width n) :
    c.isDigit = true := by
  rcases List.mem_append.mp member with zero | digit
  · rw [List.eq_of_mem_replicate zero]
    rfl
  · exact Nat.isDigit_of_mem_toDigits (by decide) (by decide) digit

/-- A numeral starts with a digit, whatever follows it. -/
theorem isDigit_of_mem_head?_zeroPadded {rest : List Char} {c : Char}
    (head : c ∈ (zeroPadded width n ++ rest).head?) : c.isDigit = true := by
  obtain ⟨first, digits, whole⟩ := List.exists_cons_of_ne_nil (zeroPadded_ne_nil width n)
  rw [whole] at head
  cases head
  exact isDigit_of_mem_zeroPadded width n (whole ▸ List.mem_cons_self)

variable {width n}

theorem length_zeroPadded (wide : 0 < width) (fits : n < 10 ^ width) :
    (zeroPadded width n).length = width := by
  have short : (Nat.toDigits 10 n).length ≤ width :=
    (Nat.length_toDigits_le_iff (by decide) wide).mpr fits
  rw [zeroPadded, padLeft, List.length_append, List.length_replicate]
  omega

end TransactionKit.Text
