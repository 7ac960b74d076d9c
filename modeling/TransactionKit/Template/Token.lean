import TransactionKit.Template.Parameter
import TransactionKit.Text.Letter
import TransactionKit.Text.Quoted

/-!
The tokens of a statement template. A template is read from left to right, each token as long as
it can be: numbers, runs of blanks, punctuation marks, identifiers, quoted literals and parameters.
Which characters a token takes does not depend on the tokens before it, so parentheses and commas
are plain marks here. A character that belongs to no token is a token of its own, or an error when
the options are strict.
-/

namespace TransactionKit

/-- What a template reader may be told. -/
structure TemplateOptions where
  /-- Whether a character outside the grammar is an error. -/
  strict : Bool := false
  /-- Whether dollar signs enclose parameters. -/
  parameters : Bool := true
deriving DecidableEq, Repr

instance : Inhabited TemplateOptions := ⟨{}⟩

/-- A token of a template. -/
inductive Token where
  | number (text : String)
  /-- A run of blanks, whatever its length. -/
  | blank
  /-- A punctuation mark. -/
  | mark (c : Char)
  | identifier (name : String)
  | quoted (text : String) (delimiter : Char)
  /-- A doubled dollar sign. -/
  | dollar
  | parameter (p : Parameter)
  /-- A character outside the grammar. -/
  | other (c : Char)
deriving DecidableEq, Repr, Inhabited

/-- A token and the position of its first character. -/
structure Lexeme where
  token : Token
  position : Nat
deriving DecidableEq, Repr, Inhabited

namespace Token

/-- Whether a character continues a number. -/
def isNumberPart (c : Char) : Bool :=
  c.isDigit || c = '.'

/-- Whether a character is a blank of the grammar. -/
def isSpace (c : Char) : Bool :=
  c = ' ' || c = '\n' || c = '\r' || c = '\t'

/-- Whether a character is a punctuation mark. -/
def isPunctuation (c : Char) : Bool :=
  "-+()*=><!/,.|&%".toList.contains c

def isIdentifierStart (c : Char) : Bool :=
  Text.isAlphabetic c || c = '_'

/-- Whether a character continues an identifier. -/
def isIdentifierPart (c : Char) : Bool :=
  Text.isAlphanumeric c || c = '_'

/-- The parts of a text between its commas. -/
def splitCommas : List Char → List (List Char)
  | [] => [[]]
  | c :: cs =>
    if c = ',' then [] :: splitCommas cs
    else
      match splitCommas cs with
      | part :: parts => (c :: part) :: parts
      | [] => [[c]]

theorem splitCommas_eq_splitOn (cs : List Char) : splitCommas cs = cs.splitOn ',' := by
  induction cs with
  | nil => rfl
  | cons c cs ih =>
    rw [splitCommas, ih, List.splitOn_cons_eq_if_modifyHead]
    by_cases comma : c = ','
    · simp [comma]
    · obtain ⟨part, parts, split⟩ := List.exists_cons_of_ne_nil (List.splitOn_ne_nil ',' cs)
      simp [comma, split]

/-- The parameter written between two dollar signs, the first at `position`. Its key must not be
blank. -/
def parameterBetween (position : Nat) (inside : List Char) : Except Error Parameter :=
  let names := (splitCommas inside).map String.ofList
  if (Text.trimList (names.headD "").toList).isEmpty then .error (.unexpectedChar '$' position)
  else Parameter.ofNames names

/-- Read a parameter or a doubled dollar sign, after its first dollar sign at `position`. -/
def readParameter (position : Nat) (rest : List Char) : Except Error (Token × List Char) :=
  match rest.dropWhile (· ≠ '$') with
  | [] => .error (.unterminated .parameter position)
  | _ :: after =>
    match rest.takeWhile (· ≠ '$') with
    | [] => .ok (.dollar, after)
    | inside => (parameterBetween position inside).map fun p => (.parameter p, after)

/-- Read the token that starts with `c` at `position`, and leave what follows it. -/
def next (options : TemplateOptions) (position : Nat) (c : Char) (rest : List Char) :
    Except Error (Token × List Char) :=
  if c.isDigit then
    .ok (.number (String.ofList (c :: rest.takeWhile isNumberPart)), rest.dropWhile isNumberPart)
  else if isSpace c then .ok (.blank, rest.dropWhile isSpace)
  else if isPunctuation c then .ok (.mark c, rest)
  else if isIdentifierStart c then
    .ok (.identifier (String.ofList (c :: rest.takeWhile isIdentifierPart)),
      rest.dropWhile isIdentifierPart)
  else if c = '\'' ∨ c = '"' then
    match Text.Quoting.readInside? ⟨c, false⟩ rest with
    | some (text, after) => .ok (.quoted (String.ofList text) c, after)
    | none => .error (.unterminated .quotedLiteral position)
  else if c = '$' ∧ options.parameters then readParameter position rest
  else if options.strict then .error (.unexpectedChar c position)
  else .ok (.other c, rest)

theorem length_dropWhile_le {α : Type} (p : α → Bool) (xs : List α) :
    (xs.dropWhile p).length ≤ xs.length :=
  (List.dropWhile_sublist p).length_le

theorem length_le_of_readParameter {position : Nat} {rest after : List Char} {token : Token}
    (h : readParameter position rest = .ok (token, after)) : after.length ≤ rest.length := by
  have hdrop := length_dropWhile_le (· ≠ '$') rest
  unfold readParameter at h
  split at h
  · simp at h
  next hd =>
    rw [hd] at hdrop
    simp only [List.length_cons] at hdrop
    split at h
    · simp only [Except.ok.injEq, Prod.mk.injEq] at h
      obtain ⟨-, rfl⟩ := h
      omega
    · cases hp : parameterBetween position (rest.takeWhile (· ≠ '$')) <;> simp_all [Except.map]
      omega

/-- A token takes its first character at least. -/
theorem length_le_of_next {options : TemplateOptions} {position : Nat} {c : Char}
    {rest after : List Char} {token : Token}
    (h : next options position c rest = .ok (token, after)) : after.length ≤ rest.length := by
  unfold next at h
  split at h
  · simp only [Except.ok.injEq, Prod.mk.injEq] at h
    exact h.2 ▸ length_dropWhile_le _ _
  split at h
  · simp only [Except.ok.injEq, Prod.mk.injEq] at h
    exact h.2 ▸ length_dropWhile_le _ _
  split at h
  · simp only [Except.ok.injEq, Prod.mk.injEq] at h
    exact h.2 ▸ Nat.le_refl _
  split at h
  · simp only [Except.ok.injEq, Prod.mk.injEq] at h
    exact h.2 ▸ length_dropWhile_le _ _
  split at h
  · split at h
    next hq =>
      simp only [Except.ok.injEq, Prod.mk.injEq] at h
      obtain ⟨-, rfl⟩ := h
      exact Nat.le_of_lt (Text.Quoting.length_lt_of_readInside? hq)
    · simp at h
  split at h
  · exact length_le_of_readParameter h
  split at h
  · simp at h
  · simp only [Except.ok.injEq, Prod.mk.injEq] at h
    exact h.2 ▸ Nat.le_refl _

/-- The tokens of a text whose first character stands at `position`. -/
def scanFrom (options : TemplateOptions) (position : Nat) : List Char → Except Error (List Lexeme)
  | [] => .ok []
  | c :: rest =>
    match h : next options position c rest with
    | .error e => .error e
    | .ok (token, after) =>
      have := length_le_of_next h
      (scanFrom options (position + 1 + (rest.length - after.length)) after).map
        (⟨token, position⟩ :: ·)
termination_by cs => cs.length

def scan (options : TemplateOptions) (text : List Char) : Except Error (List Lexeme) :=
  scanFrom options 0 text

end Token

end TransactionKit
