/-!
White space and trimming. `isBlank` is the property White_Space of Unicode; `trim` strips blank
characters from both ends of a text and keeps all else, blanks inside included.
-/

namespace TransactionKit.Text

/-- Whether a character is white space: the tab to carriage return block, the space, the two
Latin-1 blanks and the wider spaces and separators. -/
def isBlank (c : Char) : Bool :=
  let n := c.toNat
  (0x09 ≤ n && n ≤ 0x0D) || n == 0x20 || n == 0x85 || n == 0xA0 || n == 0x1680 ||
    (0x2000 ≤ n && n ≤ 0x200A) || n == 0x2028 || n == 0x2029 || n == 0x202F || n == 0x205F ||
    n == 0x3000

/-- A list without its leading blanks. -/
def trimStart (cs : List Char) : List Char :=
  cs.dropWhile isBlank

/-- A list without its trailing blanks. -/
def trimEnd (cs : List Char) : List Char :=
  (trimStart cs.reverse).reverse

/-- A list without leading and trailing blanks. -/
def trimList (cs : List Char) : List Char :=
  trimEnd (trimStart cs)

/-- A text without leading and trailing blanks. -/
def trim (s : String) : String :=
  String.ofList (trimList s.toList)

theorem trimStart_append {before cs : List Char} (blank : ∀ c ∈ before, isBlank c = true) :
    trimStart (before ++ cs) = trimStart cs :=
  List.dropWhile_append_of_pos blank

theorem trimStart_eq_self {cs : List Char} (solid : ∀ c ∈ cs.head?, isBlank c = false) :
    trimStart cs = cs := by
  cases cs with
  | nil => rfl
  | cons c cs => exact List.dropWhile_cons_of_neg (by simp [solid c rfl])

/-- No digit is a blank. -/
theorem isBlank_of_isDigit {c : Char} (digit : c.isDigit = true) : isBlank c = false := by
  have bounds : 48 ≤ c.toNat ∧ c.toNat ≤ 57 := by
    simp only [Char.isDigit, Bool.and_eq_true, decide_eq_true_eq] at digit
    exact digit
  simp only [isBlank, Bool.or_eq_false_iff, Bool.and_eq_false_iff, decide_eq_false_iff_not,
    beq_eq_false_iff_ne]
  omega

/-- Trimming strips exactly the blanks around a text that neither starts nor ends in a blank. -/
theorem trimList_append {before core after : List Char}
    (blankBefore : ∀ c ∈ before, isBlank c = true) (blankAfter : ∀ c ∈ after, isBlank c = true)
    (first : ∀ c ∈ core.head?, isBlank c = false) (last : ∀ c ∈ core.getLast?, isBlank c = false) :
    trimList (before ++ core ++ after) = core := by
  have reversed : ∀ c ∈ after.reverse, isBlank c = true := fun c member =>
    blankAfter c (List.mem_reverse.mp member)
  rw [trimList, List.append_assoc, trimStart_append blankBefore]
  cases core with
  | nil =>
    have nothing : trimStart (after ++ []) = [] := trimStart_append blankAfter
    rw [List.append_nil] at nothing
    rw [List.nil_append, nothing]
    rfl
  | cons c core =>
    have starts : trimStart (c :: core ++ after) = c :: core ++ after := trimStart_eq_self first
    rw [starts, trimEnd, List.reverse_append, trimStart_append reversed, trimStart_eq_self,
      List.reverse_reverse]
    rwa [List.head?_reverse]

/-- What trimming strips from a text is blank. -/
theorem exists_append_trimList (cs : List Char) : ∃ before after,
    cs = before ++ trimList cs ++ after ∧ (∀ c ∈ before, isBlank c = true) ∧
      ∀ c ∈ after, isBlank c = true := by
  have split (ds : List Char) : ∃ blanks, ds = blanks ++ trimStart ds ∧
      ∀ c ∈ blanks, isBlank c = true :=
    ⟨ds.takeWhile isBlank, List.takeWhile_append_dropWhile.symm, fun c member =>
      List.all_eq_true.mp List.all_takeWhile c member⟩
  obtain ⟨before, starts, blankBefore⟩ := split cs
  obtain ⟨after, ends, blankAfter⟩ := split (trimStart cs).reverse
  refine ⟨before, after.reverse, ?_, blankBefore, fun c member =>
    blankAfter c (List.mem_reverse.mp member)⟩
  have whole := congrArg List.reverse ends
  rw [List.reverse_reverse, List.reverse_append] at whole
  rw [List.append_assoc, trimList, trimEnd, ← whole]
  exact starts

/-- An ASCII letter in lower case; any other character as it is. -/
def lowerChar (c : Char) : Char :=
  if 'A' ≤ c && c ≤ 'Z' then Char.ofNat (c.toNat + 32) else c

/-- A text with its ASCII letters in lower case. -/
def lower (s : String) : String :=
  String.ofList (s.toList.map lowerChar)

end TransactionKit.Text
