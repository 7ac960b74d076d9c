import TransactionKit.Proofs.Template.Brackets
import TransactionKit.Proofs.Template.Descent

/-!
Strict and lenient reading. The two differ at characters that the grammar has no place for, and
`strangers` finds these on the characters of a text alone: outside literals and parameters it knows
only whether the character before belongs to an identifier. A strict compiler reads exactly the
templates without strangers that a lenient one reads, to the same trees, and a template that it
refuses for anything but a stranger is refused by the lenient one for the same reason:
`TemplateCompiler.parse_strict`.
-/

namespace TransactionKit

open Token

/-! ## Characters outside the grammar -/

/-- What the characters before a place have opened there. -/
inductive Region where
  | outside
  /-- Directly after a character of an identifier. -/
  | identifier
  /-- In a literal or a parameter that a character closes. -/
  | enclosed (closing : Char)
deriving DecidableEq, Repr, Inhabited

/-- The characters outside quoted literals and parameters that are not of the grammar, with their
positions: the first character of the text has a position and stands in a region. Letters and
underscores start an identifier, and all that is alphanumeric continues one. -/
def strangers (parameters : Bool) : Region → (position : Nat) → List Char → List (Char × Nat)
  | _, _, [] => []
  | .enclosed closing, position, c :: cs =>
    strangers parameters (if c = closing then .outside else .enclosed closing) (position + 1) cs
  | region, position, c :: cs =>
    if opensRegion { parameters } c then strangers parameters (.enclosed c) (position + 1) cs
    else if isIdentifierStart c ∨ region = .identifier ∧ isIdentifierPart c then
      strangers parameters .identifier (position + 1) cs
    else if Bracket.isSign c then strangers parameters .outside (position + 1) cs
    else (c, position) :: strangers parameters .outside (position + 1) cs

example : strangers false .outside 0 "a² = ² $'$²'".toList = [('²', 5), ('$', 7)] := by
  decide +kernel

section Strangers

variable {parameters : Bool} {position : Nat} {c : Char} {cs run after : List Char}

theorem strangers_closing {closing : Char} :
    strangers parameters (.enclosed closing) position (closing :: after) =
      strangers parameters .outside (position + 1) after := by
  rw [strangers, if_pos rfl]

/-- The end of a literal or parameter is the first of its closing characters. -/
theorem strangers_enclosed {closing : Char} (closed : closing ∉ run) :
    strangers parameters (.enclosed closing) position (run ++ closing :: after) =
      strangers parameters .outside (position + run.length + 1) after := by
  induction run generalizing position with
  | nil => exact strangers_closing
  | cons c run ih =>
    have differ : c ≠ closing := fun same => closed (same ▸ List.mem_cons_self)
    rw [List.cons_append, strangers, if_neg differ,
      ih fun member => closed (List.mem_cons_of_mem c member), List.length_cons]
    congr 1
    omega

theorem strangers_opening (opens : opensRegion { parameters } c = true) :
    strangers parameters .outside position (c :: cs) =
      strangers parameters (.enclosed c) (position + 1) cs := by
  rw [strangers, if_pos opens]
  intro closing same
  cases same

/-- There is no stranger in a literal, whatever its text. A doubled quote character closes the literal
and opens it again. -/
theorem strangers_encode (quote : isQuote c = true) (text : List Char) :
    strangers parameters .outside position (Text.Quoting.encode ⟨c, false⟩ text ++ after) =
      strangers parameters .outside
        (position + (Text.Quoting.encode ⟨c, false⟩ text).length) after := by
  have opens : opensRegion { parameters } c = true := by simp [opensRegion, quote]
  have inside (position : Nat) : strangers parameters (.enclosed c) position
      (text.flatMap (Text.Quoting.encodeChar ⟨c, false⟩) ++ c :: after) =
        strangers parameters .outside
          (position + (text.flatMap (Text.Quoting.encodeChar ⟨c, false⟩)).length + 1) after := by
    induction text generalizing position with
    | nil => exact strangers_closing
    | cons d text ih =>
      rw [List.flatMap_cons, List.append_assoc, List.length_append]
      by_cases same : d = c
      · subst same
        have doubled : Text.Quoting.encodeChar ⟨d, false⟩ d = [d, d] := by
          simp [Text.Quoting.encodeChar]
        rw [doubled, List.cons_append, List.singleton_append, strangers, if_pos rfl,
          strangers_opening opens, ih]
        congr 1
        simp only [List.length_cons, List.length_nil]
        omega
      · have alone : Text.Quoting.encodeChar ⟨c, false⟩ d = [d] := by
          simp [Text.Quoting.encodeChar, same]
        rw [alone, List.singleton_append, strangers, if_neg same, ih]
        congr 1
        simp only [List.length_cons, List.length_nil]
        omega
  have whole : Text.Quoting.encode ⟨c, false⟩ text ++ after =
      c :: (text.flatMap (Text.Quoting.encodeChar ⟨c, false⟩) ++ c :: after) := by
    simp [Text.Quoting.encode]
  rw [whole, strangers_opening opens, inside]
  congr 1
  simp only [Text.Quoting.encode, List.length_append, List.length_cons, List.length_nil]
  omega

theorem isIdentifierStart_of_isSign (sign : Bracket.isSign c = true) :
    isIdentifierStart c = false := by
  simp only [Bracket.isSign, Bool.or_eq_true] at sign
  rcases sign with (digit | space) | punctuation
  · exact isIdentifierStart_of_isDigit digit
  · exact eq_false_of_isSpace (by decide) space
  · exact eq_false_of_isPunctuation (by decide) punctuation

theorem strangers_sign (sign : Bracket.isSign c = true) :
    strangers parameters .outside position (c :: cs) =
      strangers parameters .outside (position + 1) cs := by
  obtain ⟨quote, dollar⟩ := Bracket.not_opens_of_isSign sign
  rw [strangers]
  · simp [opensRegion, quote, dollar, isIdentifierStart_of_isSign sign, sign]
  · intro closing same
    cases same

theorem strangers_signs (signs : ∀ d ∈ run, Bracket.isSign d = true) :
    strangers parameters .outside position (run ++ after) =
      strangers parameters .outside (position + run.length) after := by
  induction run generalizing position with
  | nil => rfl
  | cons c run ih =>
    rw [List.cons_append, strangers_sign (signs c List.mem_cons_self),
      ih fun d member => signs d (List.mem_cons_of_mem c member), List.length_cons]
    congr 1
    omega

theorem strangers_part {region : Region}
    (part : isIdentifierStart c = true ∨ region = .identifier ∧ isIdentifierPart c = true)
    (unenclosed : ∀ closing, region ≠ .enclosed closing) :
    strangers parameters region position (c :: cs) =
      strangers parameters .identifier (position + 1) cs := by
  have plain : isPlain { parameters } c = true :=
    isPlain_of_isIdentifierPart (part.elim isIdentifierPart_of_isIdentifierStart And.right)
  have closed : opensRegion { parameters } c = false := by
    simp only [isPlain, Bool.and_eq_true, Bool.not_eq_true'] at plain
    exact plain.2
  rw [strangers, closed]
  · simp [part]
  · exact fun closing same => absurd same (unenclosed closing)

/-- An identifier ends where nothing continues it, and then it makes no difference any more. -/
theorem strangers_parts (parts : ∀ d ∈ run, isIdentifierPart d = true)
    (stops : ∀ d ∈ after.head?, isIdentifierPart d = false) :
    strangers parameters .identifier position (run ++ after) =
      strangers parameters .outside (position + run.length) after := by
  induction run generalizing position with
  | nil =>
    cases after with
    | nil => rfl
    | cons d after =>
      have noPart : isIdentifierPart d = false := stops d rfl
      have noStart : isIdentifierStart d = false :=
        Bool.eq_false_iff.mpr fun start =>
          Bool.false_ne_true (noPart.symm.trans (isIdentifierPart_of_isIdentifierStart start))
      simp [strangers, noPart, noStart]
  | cons c run ih =>
    rw [List.cons_append, strangers_part (.inr ⟨rfl, parts c List.mem_cons_self⟩)
        (fun _ same => by cases same),
      ih fun d member => parts d (List.mem_cons_of_mem c member), List.length_cons]
    congr 1
    omega

/-- The stranger that a token at a position is, if it is one. -/
def Token.strangers (position : Nat) : Token → List (Char × Nat)
  | .other c => [(c, position)]
  | _ => []

/-- The characters of a token are no strangers, unless the token is a character of no sort. -/
theorem Token.Reads.strangers_eq {token : Token} {next : Nat}
    (reads : Reads { strict := false, parameters } cs token after)
    (place : position + cs.length = next + after.length) :
    TransactionKit.strangers parameters .outside position cs =
      token.strangers position ++ TransactionKit.strangers parameters .outside next after := by
  cases reads with
  | @number c run _ digit parts stops =>
    have first : isNumberPart c = true := by simp [isNumberPart, digit]
    have signs : ∀ d ∈ c :: run, Bracket.isSign d = true := by
      rintro d (_ | ⟨_, member⟩)
      · exact (Bracket.isFiller_of_isNumberPart first).1
      · exact (Bracket.isFiller_of_isNumberPart (parts d member)).1
    obtain rfl : next = position + (c :: run).length := by
      simp only [List.length_cons, List.length_append] at place ⊢
      omega
    exact strangers_signs signs
  | @blank c run _ space parts stops =>
    have signs : ∀ d ∈ c :: run, Bracket.isSign d = true := by
      rintro d (_ | ⟨_, member⟩)
      · exact (Bracket.isFiller_of_isSpace space).1
      · exact (Bracket.isFiller_of_isSpace (parts d member)).1
    obtain rfl : next = position + (c :: run).length := by
      simp only [List.length_cons, List.length_append] at place ⊢
      omega
    exact strangers_signs signs
  | mark punctuation =>
    obtain rfl : next = position + 1 := by
      simp only [List.length_cons] at place
      omega
    exact strangers_sign (by simp [Bracket.isSign, punctuation])
  | @identifier c run _ start parts stops =>
    obtain rfl : next = position + 1 + run.length := by
      simp only [List.length_cons, List.length_append] at place
      omega
    rw [strangers_part (.inl start) (fun _ same => by cases same), strangers_parts parts stops]
    rfl
  | @quoted delimiter text _ quote stops =>
    obtain rfl : next = position + (Text.Quoting.encode ⟨delimiter, false⟩ text).length := by
      simp only [List.length_append] at place
      omega
    exact strangers_encode quote text
  | dollar enabled =>
    obtain rfl : next = position + 1 + 1 := by
      simp only [List.length_cons] at place
      omega
    rw [strangers_opening (opensRegion_dollar enabled)]
    exact strangers_closing
  | @parameter _ inside _ p enabled nonempty closed between =>
    obtain rfl : next = position + 1 + inside.length + 1 := by
      simp only [List.length_cons, List.length_append] at place
      omega
    rw [strangers_opening (opensRegion_dollar enabled)]
    exact strangers_enclosed closed
  | @other c _ lenient digit space punctuation start region =>
    obtain rfl : next = position + 1 := by
      simp only [List.length_cons] at place
      omega
    have closed : opensRegion { parameters } c = false := region
    rw [TransactionKit.strangers]
    · simp [closed, start, Bracket.isSign, digit, space, punctuation, Token.strangers]
    · intro closing same
      cases same

end Strangers

/-! ## Two readings -/

/-- How a strict reading of a text with certain strangers comes out, next to a lenient one: if both
succeed they come to the same and there are no strangers; a failure is that of the lenient reading
or is due to a stranger. -/
inductive Tightens {α : Type} (strange : List (Char × Nat)) :
    (strict lenient : Except Error α) → Prop
  | succeeds (a : α) (none : strange = []) : Tightens strange (.ok a) (.ok a)
  | fails (e : Error) : Tightens strange (.error e) (.error e)
  | refuses {c : Char} {position : Nat} (member : (c, position) ∈ strange)
      (lenient : Except Error α) : Tightens strange (.error (.unexpectedChar c position)) lenient

namespace Tightens

variable {α β : Type} {strange : List (Char × Nat)} {strict lenient : Except Error α}

/-- What is made of both readings alike does not set them apart. -/
theorem bind (tightens : Tightens strange strict lenient) (f : α → Except Error β) :
    Tightens strange (strict.bind f) (lenient.bind f) := by
  cases tightens with
  | succeeds a none =>
    cases made : f a with
    | ok b =>
      simp only [Except.bind, made]
      exact .succeeds b none
    | error e =>
      simp only [Except.bind, made]
      exact .fails e
  | fails e => exact .fails e
  | refuses member => exact .refuses member _

theorem map (tightens : Tightens strange strict lenient) (f : α → β) :
    Tightens strange (strict.map f) (lenient.map f) := by
  cases tightens with
  | succeeds a none => exact .succeeds (f a) none
  | fails e => exact .fails e
  | refuses member => exact .refuses member _

theorem eq_ok_iff (tightens : Tightens strange strict lenient) (a : α) :
    strict = .ok a ↔ lenient = .ok a ∧ strange = [] := by
  cases tightens with
  | succeeds b none => simp [none]
  | fails e => simp
  | refuses member =>
    constructor
    · intro failed
      cases failed
    · rintro ⟨-, none⟩
      rw [none] at member
      cases member

theorem eq_error (tightens : Tightens strange strict lenient) {e : Error}
    (failed : strict = .error e)
    (noStranger : ∀ c position, (c, position) ∈ strange → e ≠ .unexpectedChar c position) :
    lenient = .error e := by
  cases tightens with
  | succeeds => cases failed
  | fails => exact failed
  | refuses member =>
    cases failed
    exact absurd rfl (noStranger _ _ member)

end Tightens

namespace Token

variable {parameters : Bool} {position : Nat} {c : Char} {rest after : List Char}

/-- No parameter and no doubled dollar sign is a character of no sort. -/
theorem readParameter_ne_other (position : Nat) (rest : List Char) (c : Char) (after : List Char) :
    readParameter position rest ≠ .ok (.other c, after) := by
  intro read
  unfold readParameter at read
  split at read
  · cases read
  split at read
  · cases read
  · cases between : parameterBetween position (rest.takeWhile (· ≠ '$')) <;>
      rw [between] at read <;> cases read

/-- A strict reader takes every token that a lenient one takes, but for a character of no sort. -/
theorem next_strict (position : Nat) (c : Char) (rest : List Char) :
    (∃ after, next { strict := false, parameters } position c rest = .ok (.other c, after) ∧
        next { strict := true, parameters } position c rest =
          .error (.unexpectedChar c position)) ∨
      (∀ d after, next { strict := false, parameters } position c rest ≠ .ok (.other d, after)) ∧
        next { strict := true, parameters } position c rest =
          next { strict := false, parameters } position c rest := by
  by_cases digit : c.isDigit = true
  · exact .inr (by simp [next, digit])
  by_cases space : isSpace c = true
  · exact .inr (by simp [next, digit, space])
  by_cases punctuation : isPunctuation c = true
  · exact .inr (by simp [next, digit, space, punctuation])
  by_cases start : isIdentifierStart c = true
  · exact .inr (by simp [next, digit, space, punctuation, start])
  by_cases quote : c = '\'' ∨ c = '"'
  · right
    simp only [next, digit, space, punctuation, start, if_pos quote, Bool.false_eq_true, if_false,
      and_true]
    intro d after
    cases Text.Quoting.readInside? ⟨c, false⟩ rest <;> simp
  by_cases dollar : c = '$' ∧ parameters = true
  · obtain ⟨rfl, enabled⟩ := dollar
    rw [next_dollar enabled, next_dollar enabled]
    exact .inr ⟨readParameter_ne_other position rest, rfl⟩
  · exact .inl ⟨rest, by simp [next, digit, space, punctuation, start, quote, dollar]⟩

/-- The tokens of a strict reading. The induction is on the length of the text: a token that both
readings take leaves a shorter one and takes no stranger away. -/
theorem tightens_scanFrom (position : Nat) (cs : List Char) :
    Tightens (TransactionKit.strangers parameters .outside position cs)
      (scanFrom { strict := true, parameters } position cs)
      (scanFrom { strict := false, parameters } position cs) := by
  induction length : cs.length using Nat.strong_induction_on generalizing position cs with
  | _ n ih =>
    cases cs with
    | nil =>
      rw [scanFrom_nil, scanFrom_nil]
      exact .succeeds [] rfl
    | cons c rest =>
      cases read : next { strict := false, parameters } position c rest with
      | error e =>
        rcases next_strict position c rest with ⟨after, other, -⟩ | ⟨-, same⟩
        · rw [read] at other
          cases other
        · rw [scanFrom_of_error read, scanFrom_of_error (same.trans read)]
          exact .fails e
      | ok taken =>
        obtain ⟨token, after⟩ := taken
        have shorter := length_le_of_next read
        have places : position + (c :: rest).length =
            position + 1 + (rest.length - after.length) + after.length := by
          rw [List.length_cons]
          omega
        have strangers := (reads_of_next read).strangers_eq places
        rcases next_strict position c rest with ⟨_, other, refused⟩ | ⟨noOther, same⟩
        · rw [read] at other
          cases other
          rw [scanFrom_of_error refused]
          refine .refuses ?_ _
          rw [strangers]
          exact List.mem_cons_self
        · have none : token.strangers position = [] := by
            cases token with
            | other d => exact absurd read (noOther d after)
            | _ => rfl
          rw [none, List.nil_append] at strangers
          rw [strangers, scanFrom_of_next read, scanFrom_of_next (same.trans read)]
          refine (ih after.length ?_ _ after rfl).map _
          rw [← length, List.length_cons]
          omega

end Token

namespace TemplateCompiler

/-- The compiler with the reader told whether to refuse characters outside the grammar. -/
def withStrict (compiler : TemplateCompiler) (strict : Bool) : TemplateCompiler :=
  { compiler with options := { compiler.options with strict } }

/-- What a strict compiler makes of a text, next to a lenient one: the trees are made of the tokens,
and no rule for calls knows how these were read. -/
theorem tightens_parse (compiler : TemplateCompiler) (text : String) :
    Tightens (strangers compiler.options.parameters .outside 0 text.toList)
      ((compiler.withStrict true).parse text) ((compiler.withStrict false).parse text) := by
  rw [parse, parse, Node.parse_eq, Node.parse_eq]
  exact (Token.tightens_scanFrom 0 text.toList).bind
    (Node.ofLexemes (compiler.callRule?.getD .plain))

/-- A strict compiler reads a template exactly if there is no stranger in it and the lenient one
reads it, to the same tree, and what makes it refuse a template makes the lenient one refuse it too,
unless it is a stranger. -/
theorem parse_strict (compiler : TemplateCompiler) (text : String) :
    (∀ tree, (compiler.withStrict true).parse text = .ok tree ↔
      (compiler.withStrict false).parse text = .ok tree ∧
        strangers compiler.options.parameters .outside 0 text.toList = []) ∧
    ∀ e, (compiler.withStrict true).parse text = .error e →
      (∀ c position, (c, position) ∈ strangers compiler.options.parameters .outside 0 text.toList →
        e ≠ .unexpectedChar c position) →
      (compiler.withStrict false).parse text = .error e :=
  ⟨fun tree => (tightens_parse compiler text).eq_ok_iff tree,
    fun _ failed noStranger => (tightens_parse compiler text).eq_error failed noStranger⟩

/-- Of a stranger and a literal without an end, a strict compiler meets the one that comes first. -/
example : strict.parse "a² § 'b" = .error (.unexpectedChar '§' 3) ∧
    lenient.parse "a² § 'b" = .error (.unterminated .quotedLiteral 5) ∧
    strict.parse "a² 'b §" = lenient.parse "a² 'b §" := by
  decide +kernel

end TemplateCompiler

end TransactionKit
