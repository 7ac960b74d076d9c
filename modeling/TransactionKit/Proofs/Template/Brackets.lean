import TransactionKit.Proofs.Template.Scanning

/-!
A pushdown scanner of templates. `Bracket.verdict` goes over the characters of a template once, from
left to right, and builds no tree: it keeps a stack of the calls and groups that are still open,
skips literals and parameters, and ends at the first thing that is wrong. `Bracket.verdict_cons` says
that the scanner, which looks at single characters, goes over a text token by token.
-/

namespace TransactionKit

open Token

/-- A call or a group that a scan has seen open and not closed yet. -/
inductive Bracket where
  | call (position : Nat)
  | group (position : Nat)
deriving DecidableEq, Repr, Inhabited

namespace Bracket

/-- The failure of a text that ends with the bracket open. -/
def unterminated : Bracket → Error
  | call position => .unterminated .functionCall position
  | group position => .unterminated .group position

/-- What the end of a text says: no bracket may be open, and the innermost one is to blame. -/
def atEnd : List Bracket → Except Error Unit
  | [] => .ok ()
  | innermost :: _ => .error innermost.unterminated

/-- The open brackets after a character that opens no call. A parenthesis outside all brackets is
text. -/
def shift (position : Nat) (c : Char) : List Bracket → List Bracket
  | [] => []
  | innermost :: stack =>
    if c = '(' then .group position :: innermost :: stack
    else if c = ')' then stack
    else innermost :: stack

/-- What follows a literal, from the text after its opening quote. A doubled quote does not close
it. -/
def afterLiteral? (quote : Char) : List Char → Option (List Char)
  | [] => none
  | [c] => if c = quote then some [] else none
  | c :: d :: rest =>
    if c ≠ quote then afterLiteral? quote (d :: rest)
    else if d = quote then afterLiteral? quote rest
    else some (d :: rest)

/-- Check the names of the parameter that opens at a position: the first must not be blank, and the
second, if there is one, must be blank or name a kind. -/
def checkNames (position : Nat) : List (List Char) → Except Error Unit
  | [] => .ok ()
  | key :: others =>
    if key.all Text.isBlank then .error (.unexpectedChar '$' position)
    else
      match others with
      | [] => .ok ()
      | name :: _ =>
        if name.all Text.isBlank ∨ (Kind.ofName? (String.ofList name)).isSome then .ok ()
        else .error (.unknownKind (String.ofList name))

/-- What follows a parameter or a doubled dollar sign, from the text after its first dollar sign at
a position. -/
def afterParameter (position : Nat) (rest : List Char) : Except Error (List Char) :=
  match rest.dropWhile (· ≠ '$') with
  | [] => .error (.unterminated .parameter position)
  | _ :: after =>
    match rest.takeWhile (· ≠ '$') with
    | [] => .ok after
    | inside => (checkNames position (inside.splitOn ',')).map fun _ => after

/-- Whether a character is a digit, a blank or a punctuation mark of the grammar. -/
def isSign (c : Char) : Bool :=
  c.isDigit || isSpace c || isPunctuation c

theorem length_lt_of_afterLiteral? {quote : Char} {cs after : List Char}
    (closed : afterLiteral? quote cs = some after) : after.length < cs.length := by
  fun_induction afterLiteral? quote cs <;> grind

theorem length_le_of_afterParameter {position : Nat} {rest after : List Char}
    (closed : afterParameter position rest = .ok after) : after.length ≤ rest.length := by
  have shorter := length_dropWhile_le (· ≠ '$') rest
  unfold afterParameter at closed
  split at closed
  · cases closed
  · rename_i left
    rw [left, List.length_cons] at shorter
    split at closed
    · cases closed
      exact Nat.le_of_succ_le shorter
    · cases checked : checkNames position ((rest.takeWhile (· ≠ '$')).splitOn ',') with
      | error e =>
        rw [checked] at closed
        cases closed
      | ok _ =>
        rw [checked] at closed
        cases closed
        exact Nat.le_of_succ_le shorter

/-- Scan a text whose first character stands at a position, with brackets open, the innermost first.
An identifier directly before a parenthesis opens a call where it starts; any other parenthesis
counts only inside a bracket. -/
def verdict (options : TemplateOptions) (position : Nat) (stack : List Bracket) :
    List Char → Except Error Unit
  | [] => atEnd stack
  | c :: rest =>
    if isQuote c then
      match h : afterLiteral? c rest with
      | none => .error (.unterminated .quotedLiteral position)
      | some after =>
        have := length_lt_of_afterLiteral? h
        verdict options (position + 1 + (rest.length - after.length)) stack after
    else if c = '$' ∧ options.parameters then
      match h : afterParameter position rest with
      | .error e => .error e
      | .ok after =>
        have := length_le_of_afterParameter h
        verdict options (position + 1 + (rest.length - after.length)) stack after
    else if isSign c then verdict options (position + 1) (shift position c stack) rest
    else if isIdentifierStart c then
      have shorter := length_dropWhile_le isIdentifierPart rest
      match h : rest.dropWhile isIdentifierPart with
      | '(' :: after =>
        have : after.length < rest.length := by
          rw [h] at shorter
          exact shorter
        verdict options (position + 1 + (rest.length - after.length)) (.call position :: stack) after
      | after =>
        have : after.length ≤ rest.length := by
          rw [h] at shorter
          exact shorter
        verdict options (position + 1 + (rest.length - after.length)) stack after
    else if options.strict then .error (.unexpectedChar c position)
    else verdict options (position + 1) stack rest
termination_by cs => cs.length

example : verdict {} 0 [] "(f(a, (b ')'".toList = .error (.unterminated .group 6) := by
  decide +kernel

/-! ## Parts of a scan -/

variable {options : TemplateOptions} {position : Nat} {stack : List Bracket}

theorem shift_of_ne {c : Char} (opening : c ≠ '(') (closing : c ≠ ')') :
    shift position c stack = stack := by
  cases stack with
  | nil => rfl
  | cons innermost stack => rw [shift, if_neg opening, if_neg closing]

theorem verdict_nil : verdict options position stack [] = atEnd stack := by
  rw [verdict]

/-- A literal is skipped or blamed. -/
theorem verdict_of_isQuote {quote : Char} (isQuote : isQuote quote = true) (rest : List Char) :
    verdict options position stack (quote :: rest) =
      match afterLiteral? quote rest with
      | none => .error (.unterminated .quotedLiteral position)
      | some after => verdict options (position + 1 + (rest.length - after.length)) stack after := by
  rw [verdict, if_pos isQuote]
  split <;> simp [*]

/-- A parameter is skipped or blamed. -/
theorem verdict_dollar (enabled : options.parameters = true) (rest : List Char) :
    verdict options position stack ('$' :: rest) =
      (afterParameter position rest).bind fun after =>
        verdict options (position + 1 + (rest.length - after.length)) stack after := by
  rw [verdict, if_neg (by decide), if_pos ⟨rfl, enabled⟩]
  split <;> simp [*, Except.bind]

/-- A sign does not open a literal or a parameter. -/
theorem not_opens_of_isSign {c : Char} (sign : isSign c = true) : isQuote c = false ∧ c ≠ '$' := by
  constructor
  · by_contra quote
    simp only [isQuote, Bool.or_eq_false_iff, decide_eq_false_iff_not, not_and_or, not_not] at quote
    rcases quote with rfl | rfl <;> cases sign
  · rintro rfl
    cases sign

theorem verdict_of_isSign {c : Char} (sign : isSign c = true) (rest : List Char) :
    verdict options position stack (c :: rest) =
      verdict options (position + 1) (shift position c stack) rest := by
  obtain ⟨quote, dollar⟩ := not_opens_of_isSign sign
  rw [verdict]
  simp [quote, dollar, sign]

/-- A sign that is no parenthesis. A scan goes over it without a look at its stack. -/
def IsFiller (c : Char) : Prop :=
  isSign c = true ∧ c ≠ '(' ∧ c ≠ ')'

theorem isFiller_of_isNumberPart {c : Char} (part : isNumberPart c = true) : IsFiller c := by
  refine ⟨?_, ?_, ?_⟩
  · simp only [isNumberPart, Bool.or_eq_true, decide_eq_true_eq] at part
    rcases part with digit | rfl
    · simp [isSign, digit]
    · rfl
  · rintro rfl
    cases part
  · rintro rfl
    cases part

theorem isFiller_of_isSpace {c : Char} (space : isSpace c = true) : IsFiller c := by
  refine ⟨by simp [isSign, space], ?_, ?_⟩
  · rintro rfl
    cases space
  · rintro rfl
    cases space

theorem verdict_of_isFiller {c : Char} (filler : IsFiller c) (rest : List Char) :
    verdict options position stack (c :: rest) = verdict options (position + 1) stack rest := by
  obtain ⟨sign, opening, closing⟩ := filler
  rw [verdict_of_isSign sign, shift_of_ne opening closing]

/-- A scan comes to the end of the longest run of fillers of a class. -/
theorem verdict_dropWhile {group : Char → Bool} (fillers : ∀ c, group c = true → IsFiller c)
    (position : Nat) (rest : List Char) :
    verdict options position stack rest =
      verdict options (position + (rest.length - (rest.dropWhile group).length)) stack
        (rest.dropWhile group) := by
  induction rest generalizing position with
  | nil => rfl
  | cons c rest ih =>
    by_cases member : group c = true
    · have shorter := length_dropWhile_le group rest
      rw [List.dropWhile_cons_of_pos member, verdict_of_isFiller (fillers c member), ih,
        List.length_cons]
      congr 1
      omega
    · rw [List.dropWhile_cons_of_neg member, Nat.sub_self, Nat.add_zero]

/-! ## Literals and parameters -/

/-- A literal ends where its reader ends. -/
theorem afterLiteral?_eq (quote : Char) (cs : List Char) :
    afterLiteral? quote cs =
      (Text.Quoting.readInside? ⟨quote, false⟩ cs).map fun (_, after) => after := by
  fun_induction afterLiteral? quote cs <;> simp_all [Text.Quoting.readInside?, Function.comp_def]

/-- Trimming leaves nothing of a text exactly if all of it is blank. -/
theorem isEmpty_trimList (cs : List Char) :
    (Text.trimList cs).isEmpty = cs.all Text.isBlank := by
  rw [Bool.eq_iff_iff, List.isEmpty_iff, List.all_eq_true]
  unfold Text.trimList Text.trimEnd Text.trimStart
  rw [List.reverse_eq_nil_iff, List.dropWhile_eq_nil_iff]
  constructor
  · intro blank
    have nothing : cs.dropWhile Text.isBlank = [] := by
      cases left : cs.dropWhile Text.isBlank with
      | nil => rfl
      | cons c rest =>
        have first : c ∈ (cs.dropWhile Text.isBlank).head? := by
          rw [left]
          rfl
        have stops : Text.isBlank c = false := eq_false_of_mem_head?_dropWhile first
        rw [blank c (by simp [left])] at stops
        cases stops
    exact List.dropWhile_eq_nil_iff.mp nothing
  · intro blank c member
    exact blank c ((List.dropWhile_sublist _).mem (List.mem_reverse.mp member))

/-- The names of a parameter are checked as they are when it is read. -/
theorem checkNames_eq (position : Nat) (inside : List Char) :
    checkNames position (inside.splitOn ',') =
      (parameterBetween position inside).map fun _ => () := by
  obtain ⟨key, others, names⟩ := List.exists_cons_of_ne_nil (List.splitOn_ne_nil ',' inside)
  simp only [parameterBetween, splitCommas_eq_splitOn, names, checkNames, List.map_cons,
    List.headD_cons, String.toList_ofList, isEmpty_trimList]
  split
  · rfl
  cases others with
  | nil => rfl
  | cons name others =>
    simp only [Parameter.ofNames, List.map_cons, List.getElem?_cons_succ, List.getElem?_cons_zero,
      String.toList_ofList, isEmpty_trimList]
    by_cases empty : name.all Text.isBlank = true
    · simp [empty, Except.map]
    · cases kind : Kind.ofName? (String.ofList name) <;> simp [empty, Except.map]

/-- A parameter ends where its reader ends, and both fail alike. -/
theorem afterParameter_eq (position : Nat) (rest : List Char) :
    afterParameter position rest =
      (readParameter position rest).map fun (_, after) => after := by
  unfold afterParameter readParameter
  cases rest.dropWhile (· ≠ '$') with
  | nil => rfl
  | cons d after =>
    cases rest.takeWhile (· ≠ '$') with
    | nil => rfl
    | cons c inside =>
      simp only [checkNames_eq]
      cases parameterBetween position (c :: inside) <;> rfl

/-! ## Token by token -/

/-- The open brackets after a token that opens no call. -/
def afterToken (position : Nat) (stack : List Bracket) : Token → List Bracket
  | .mark c => shift position c stack
  | _ => stack

/-- How a scan goes on after a token at a position, given the text after the first character of the
token, the token and what follows it. -/
def goOn (options : TemplateOptions) (position : Nat) (stack : List Bracket) (rest : List Char) :
    Token × List Char → Except Error Unit
  | (.identifier _, '(' :: after) =>
    verdict options (position + 1 + (rest.length - after.length)) (.call position :: stack) after
  | (token, after) =>
    verdict options (position + 1 + (rest.length - after.length)) (afterToken position stack token)
      after

theorem goOn_of_noCall {rest after : List Char} {token : Token}
    (noCall : ∀ name, token = .identifier name → after.head? ≠ some '(') :
    goOn options position stack rest (token, after) =
      verdict options (position + 1 + (rest.length - after.length))
        (afterToken position stack token) after := by
  unfold goOn
  split
  · rename_i name tail same
    cases same
    exact absurd rfl (noCall name rfl)
  · rename_i same
    cases same
    rfl

theorem goOn_of_readParameter {rest after : List Char} {token : Token}
    (read : readParameter position rest = .ok (token, after)) :
    goOn options position stack rest (token, after) =
      verdict options (position + 1 + (rest.length - after.length)) stack after := by
  unfold readParameter at read
  split at read
  · cases read
  · split at read
    · cases read
      rfl
    · cases between : parameterBetween position (rest.takeWhile (· ≠ '$')) with
      | error e =>
        rw [between] at read
        cases read
      | ok p =>
        rw [between] at read
        cases read
        rfl

/-- A scan goes over a text token by token and fails where there is none. -/
theorem verdict_cons (c : Char) (rest : List Char) :
    verdict options position stack (c :: rest) =
      (next options position c rest).bind (goOn options position stack rest) := by
  unfold next
  split
  · rename_i digit
    have part : isNumberPart c = true := by simp [isNumberPart, digit]
    rw [verdict_of_isFiller (isFiller_of_isNumberPart part),
      verdict_dropWhile fun _ => isFiller_of_isNumberPart]
    rfl
  split
  · rename_i space
    rw [verdict_of_isFiller (isFiller_of_isSpace space),
      verdict_dropWhile fun _ => isFiller_of_isSpace]
    rfl
  split
  · rename_i punctuation
    have sign : isSign c = true := by simp [isSign, punctuation]
    rw [verdict_of_isSign sign]
    simp [goOn, Except.bind, afterToken]
  rename_i digit space punctuation
  have sign : isSign c = false := by simp [isSign, *]
  split
  · rename_i start
    have plain := @isPlain_of_identifier options c [] start (by simp) c (by simp)
    have quote := isQuote_eq_false_of_isPlain plain
    have dollar : ¬(c = '$' ∧ options.parameters = true) := by
      intro opens
      exact ne_dollar_of_isPlain opens.2 plain opens.1
    rw [verdict]
    simp only [quote, dollar, sign, start, Bool.false_eq_true, if_false, if_true]
    split <;> simp_all [Except.bind, goOn, afterToken]
  split
  · rename_i start quote
    have isQuote : isQuote c = true := by simpa [isQuote] using quote
    rw [verdict_of_isQuote isQuote, afterLiteral?_eq]
    cases Text.Quoting.readInside? ⟨c, false⟩ rest <;> rfl
  rename_i quote
  have notQuote : isQuote c = false := by simpa [isQuote] using quote
  split
  · rename_i dollar
    obtain ⟨rfl, enabled⟩ := dollar
    rw [verdict_dollar enabled, afterParameter_eq]
    cases read : readParameter position rest with
    | error e => rfl
    | ok result => exact (goOn_of_readParameter read).symm
  split
  · rename_i start dollar strict
    rw [verdict]
    simp [*, Except.bind]
  · rename_i start dollar strict
    rw [verdict]
    simp [*, Except.bind, goOn, afterToken]

end Bracket

end TransactionKit
