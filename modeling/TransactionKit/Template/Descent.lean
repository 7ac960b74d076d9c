import TransactionKit.Template.Node
import TransactionKit.Template.Token

/-!
Reading a template by descent. A template is a row of nodes: numbers, words, literals, parameters
and calls. An identifier directly before a parenthesis opens a call, whose arguments are rows again;
inside an argument every other opening parenthesis opens a group, which is one more row. Where a row
ends depends on where it stands (`Stop`); parentheses and commas in any other place are text.
Neighbouring pieces of text grow into one word in which a run of blanks is a single space.
-/

namespace TransactionKit

/-- What a call with a name and arguments becomes; a rule may put any node in its place. -/
abbrev CallRule := (name : String) → (args : List Node) → Node

namespace CallRule

/-- Calls as they are written. -/
def plain : CallRule :=
  Node.call

/-- Calls under other names. An alias applies to a name in any case of its ASCII letters, and
counts as replaced by a later alias of the same name. -/
def aliases (pairs : List (String × String)) : CallRule := fun name args =>
  match pairs.reverse.find? fun pair => Text.lower pair.1 = Text.lower name with
  | some (_, target) => .call target args
  | none => .call name args

end CallRule

/-- Where a row of nodes ends. -/
inductive Stop where
  /-- At the end of the text. -/
  | finish
  /-- Before a comma or a closing parenthesis. -/
  | argument
  /-- Before a closing parenthesis. -/
  | group
deriving DecidableEq, Repr, Inhabited

/-- Whether a row ends before a character. -/
def Stop.endsBefore : Stop → Char → Bool
  | finish, _ => false
  | argument, c => c = ',' || c = ')'
  | group, c => c = ')'

/-- Something read from the front of a text, and the rest of the text with the position of its first
character. -/
structure Portion (α : Type) (cs : List Char) where
  value : α
  position : Nat
  rest : List Char
  rest_le : rest.length ≤ cs.length

namespace Portion

variable {α : Type} {shorter cs : List Char}

/-- The same, read from the front of a longer text. -/
def widen (portion : Portion α shorter) (le : shorter.length ≤ cs.length) : Portion α cs :=
  { portion with rest_le := Nat.le_trans portion.rest_le le }

theorem length_lt {c : Char} {after : List Char} (portion : Portion α cs)
    (next : portion.rest = c :: after) : after.length < cs.length := by
  have le := portion.rest_le
  rwa [next] at le

end Portion

namespace Node

open Token

/-- Text after some nodes, the last of which stands first: it goes to the word at the end if there
is one. -/
def pushText (text : String) : List Node → List Node
  | .word w :: nodes => .word (w ++ text) :: nodes
  | nodes => .word text :: nodes

/-- A space after some nodes, unless the word at the end already ends in one. -/
def pushSpace : List Node → List Node
  | .word w :: nodes =>
    if w.toList.getLast? = some ' ' then .word w :: nodes else .word (w ++ " ") :: nodes
  | nodes => .word " " :: nodes

section

variable (options : TemplateOptions) (rule : CallRule)

mutual

/-- Read a row up to its stop, given the nodes of it that are read already, last first. -/
def readRow (stop : Stop) (nodes : List Node) (position : Nat) (cs : List Char) :
    Except Error (Portion (List Node) cs) :=
  match cs with
  | [] => .ok ⟨nodes.reverse, position, [], Nat.le_refl _⟩
  | c :: rest =>
    let goOn (nodes : List Node) (position : Nat) (after : List Char)
        (shorter : after.length ≤ rest.length) : Except Error (Portion (List Node) (c :: rest)) :=
      (readRow stop nodes position after).map (·.widen (Nat.le_succ_of_le shorter))
    if stop.endsBefore c then .ok ⟨nodes.reverse, position, c :: rest, Nat.le_refl _⟩
    else if c.isDigit then
      let number := c :: rest.takeWhile isNumberPart
      goOn (.number (String.ofList number) :: nodes) (position + number.length)
        (rest.dropWhile isNumberPart) (length_dropWhile_le _ _)
    else if c = '(' ∧ stop ≠ .finish then
      (readGroup position rest).bind fun group =>
        goOn (group.value :: nodes) group.position group.rest group.rest_le
    else if isSpace c then goOn (pushSpace nodes) (position + 1) rest (Nat.le_refl _)
    else if isPunctuation c then
      goOn (pushText c.toString nodes) (position + 1) rest (Nat.le_refl _)
    else if isIdentifierStart c then
      let name := String.ofList (c :: rest.takeWhile isIdentifierPart)
      have shorter := length_dropWhile_le isIdentifierPart rest
      match h : rest.dropWhile isIdentifierPart with
      | '(' :: inside =>
        have smaller : inside.length < rest.length := by rwa [h] at shorter
        (readCall name (position + name.length) inside).bind fun call =>
          goOn (call.value :: nodes) call.position call.rest
            (Nat.le_trans call.rest_le (Nat.le_of_lt smaller))
      | after => goOn (pushText name nodes) (position + name.length) after (h ▸ shorter)
    else if c = '\'' ∨ c = '"' then
      match h : Text.Quoting.readInside? ⟨c, false⟩ rest with
      | some (text, after) =>
        goOn (.quoted (String.ofList text) c :: nodes)
          (position + 1 + (rest.length - after.length)) after
          (Nat.le_of_lt (Text.Quoting.length_lt_of_readInside? h))
      | none => .error (.unterminated .quotedLiteral position)
    else if c = '$' ∧ options.parameters then
      match h : readParameter position rest with
      | .ok (.parameter p, after) =>
        goOn (.parameter p :: nodes) (position + 1 + (rest.length - after.length)) after
          (length_le_of_readParameter h)
      | .ok (_, after) =>
        goOn (.literal "$" :: nodes) (position + 1 + (rest.length - after.length)) after
          (length_le_of_readParameter h)
      | .error e => .error e
    else if options.strict then .error (.unexpectedChar c position)
    else goOn (pushText c.toString nodes) (position + 1) rest (Nat.le_refl _)
termination_by 2 * cs.length
decreasing_by all_goals (simp only [List.length_cons]; omega)

/-- Read a group, from the text after its opening parenthesis at `start`. -/
def readGroup (start : Nat) (cs : List Char) : Except Error (Portion Node cs) :=
  (readRow .group [] (start + 1) cs).bind fun row =>
    match h : row.rest with
    | ')' :: after =>
      .ok ⟨.group row.value, row.position + 1, after, Nat.le_of_lt (row.length_lt h)⟩
    | _ => .error (.unterminated .group start)
termination_by 2 * cs.length + 1
decreasing_by all_goals omega

/-- Read a call whose name ends before `position`, from the text after its opening parenthesis
there. -/
def readCall (name : String) (position : Nat) (cs : List Char) : Except Error (Portion Node cs) :=
  match cs with
  | ')' :: after => .ok ⟨rule name [], position + 2, after, Nat.le_succ _⟩
  | cs =>
    (readArguments (position - name.length) [] (position + 1) cs).map fun args =>
      { args with value := rule name args.value }
termination_by 2 * cs.length + 2
decreasing_by all_goals omega

/-- Read the arguments up to the closing parenthesis of a call that starts at `start`, given those
that are read already, last first. -/
def readArguments (start : Nat) (args : List Node) (position : Nat) (cs : List Char) :
    Except Error (Portion (List Node) cs) :=
  (readRow .argument [] position cs).bind fun row =>
    match h : row.rest with
    | ',' :: after =>
      have smaller := row.length_lt h
      (readArguments start (.sequence row.value :: args) (row.position + 1) after).map
        (·.widen (Nat.le_of_lt smaller))
    | ')' :: after =>
      .ok ⟨(.sequence row.value :: args).reverse, row.position + 1, after,
        Nat.le_of_lt (row.length_lt h)⟩
    | _ => .error (.unterminated .functionCall start)
termination_by 2 * cs.length + 1
decreasing_by all_goals omega

end

/-- The tree of a template. -/
def parse (text : String) : Except Error Node :=
  (readRow options rule .finish [] 0 text.toList).map fun row => .sequence row.value

end

end Node

end TransactionKit
