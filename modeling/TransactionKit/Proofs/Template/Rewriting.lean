import Mathlib.Data.List.Induction
import Mathlib.Logic.Function.Basic
import TransactionKit.Proofs.Template.Descent

/-!
Rules for calls. A rule is asked in the middle of a reading, as soon as the parenthesis of a call
closes, and what it answers becomes a neighbour of the text that is still to come. Unless that is a
word, to which the text would attach, nothing depends on it: the tree is the one read without a rule,
rewritten from the innermost calls outwards (`TemplateCompiler.parse_withRule`). Aliases are the rule
that changes names of calls.
-/

namespace TransactionKit

namespace Node

mutual

/-- Put what a rule makes of it in the place of every call, the calls among its arguments first. What
a rule has made is not looked at again. -/
def rewrite (rule : CallRule) : Node → Node
  | call name args => rule name (rewriteAll rule args)
  | sequence children => .sequence (rewriteAll rule children)
  | group children => .group (rewriteAll rule children)
  | literal text => .literal text
  | number text => .number text
  | word text => .word text
  | quoted text delimiter => .quoted text delimiter
  | parameter p => .parameter p

def rewriteAll (rule : CallRule) : List Node → List Node
  | [] => []
  | node :: nodes => node.rewrite rule :: rewriteAll rule nodes

end

theorem rewriteAll_eq_map (rule : CallRule) (nodes : List Node) :
    rewriteAll rule nodes = nodes.map (rewrite rule) := by
  induction nodes with
  | nil => rfl
  | cons node nodes ih => rw [rewriteAll, ih, List.map_cons]

mutual

/-- Change the names of all calls. -/
def rename (f : String → String) : Node → Node
  | call name args => .call (f name) (renameAll f args)
  | sequence children => .sequence (renameAll f children)
  | group children => .group (renameAll f children)
  | literal text => .literal text
  | number text => .number text
  | word text => .word text
  | quoted text delimiter => .quoted text delimiter
  | parameter p => .parameter p

def renameAll (f : String → String) : List Node → List Node
  | [] => []
  | node :: nodes => node.rename f :: renameAll f nodes

end

end Node

/-! ## A tree under construction -/

/-- A rule that puts no word in the place of a call. -/
def CallRule.AvoidsWords (rule : CallRule) : Prop :=
  ∀ name args text, rule name args ≠ .word text

variable {rule : CallRule}

/-- Only words become words. -/
theorem Node.rewrite_eq_word_iff (avoids : rule.AvoidsWords) {node : Node} {text : String} :
    node.rewrite rule = .word text ↔ node = .word text := by
  cases node with
  | call name args => simpa [rewrite] using avoids name (rewriteAll rule args) text
  | _ => simp [rewrite]

/-- An open frame with the calls before it and in its arguments rewritten. -/
def Frame.rewrite (rule : CallRule) (frame : Frame) : Frame :=
  { frame with
    args := frame.args.map (Node.rewrite rule)
    before := frame.before.map (Node.rewrite rule) }

namespace Assembly

/-- A tree under construction with its calls rewritten. A call whose parenthesis is open is none
yet. -/
def rewrite (rule : CallRule) (asm : Assembly) : Assembly :=
  ⟨asm.nodes.map (Node.rewrite rule), asm.frames.map (Frame.rewrite rule)⟩

/-- Text starts a word after anything but a word. -/
theorem pushText_of_head? {asm : Assembly} (text : String)
    (noWord : ∀ w, asm.nodes.head? ≠ some (.word w)) : asm.pushText text = asm.push (.word text) := by
  unfold pushText Node.pushText
  split
  · rename_i w nodes word
    exact absurd (congrArg List.head? word) (noWord w)
  · rfl

/-- A space starts a word after anything but a word. -/
theorem pushSpace_of_head? {asm : Assembly} (noWord : ∀ w, asm.nodes.head? ≠ some (.word w)) :
    asm.pushSpace = asm.push (.word " ") := by
  unfold pushSpace Node.pushSpace
  split
  · rename_i w nodes word
    exact absurd (congrArg List.head? word) (noWord w)
  · rfl

theorem rewrite_push (asm : Assembly) (node : Node) :
    (asm.push node).rewrite rule = (asm.rewrite rule).push (node.rewrite rule) :=
  rfl

/-- Where no word stands at the end, a rule that avoids words puts none there. -/
theorem head?_rewrite_ne (avoids : rule.AvoidsWords) {asm : Assembly}
    (noWord : ∀ w, asm.nodes.head? ≠ some (.word w)) (w : String) :
    (asm.rewrite rule).nodes.head? ≠ some (.word w) := by
  intro word
  rw [rewrite, List.head?_map, Option.map_eq_some_iff] at word
  obtain ⟨node, first, rewritten⟩ := word
  rw [(Node.rewrite_eq_word_iff avoids).mp rewritten] at first
  exact noWord w first

/-- The node at the end is a word or none. -/
theorem word_or_none (asm : Assembly) :
    (∃ w nodes, asm.nodes = .word w :: nodes) ∨ ∀ w, asm.nodes.head? ≠ some (.word w) := by
  by_cases word : ∃ w, asm.nodes.head? = some (.word w)
  · obtain ⟨w, first⟩ := word
    obtain ⟨nodes, same⟩ := List.head?_eq_some_iff.mp first
    exact .inl ⟨w, nodes, same⟩
  · exact .inr (not_exists.mp word)

theorem rewrite_pushText (avoids : rule.AvoidsWords) (asm : Assembly) (text : String) :
    (asm.pushText text).rewrite rule = (asm.rewrite rule).pushText text := by
  rcases asm.word_or_none with ⟨w, nodes, word⟩ | noWord
  · simp [pushText, Node.pushText, rewrite, word, Node.rewrite]
  · rw [pushText_of_head? text noWord, pushText_of_head? text (head?_rewrite_ne avoids noWord)]
    rfl

theorem rewrite_pushSpace (avoids : rule.AvoidsWords) (asm : Assembly) :
    asm.pushSpace.rewrite rule = (asm.rewrite rule).pushSpace := by
  rcases asm.word_or_none with ⟨w, nodes, word⟩ | noWord
  · simp only [pushSpace, Node.pushSpace, rewrite, word, List.map_cons, Node.rewrite]
    split <;> simp [Node.rewrite]
  · rw [pushSpace_of_head? noWord, pushSpace_of_head? (head?_rewrite_ne avoids noWord)]
    rfl

theorem rewrite_openParen (avoids : rule.AvoidsWords) (asm : Assembly) (position : Nat) :
    (asm.openParen position).rewrite rule = (asm.rewrite rule).openParen position := by
  obtain ⟨nodes, frames⟩ := asm
  cases frames with
  | nil => exact rewrite_pushText avoids _ "("
  | cons frame frames => rfl

theorem rewriteAll_reverse (nodes : List Node) :
    Node.rewriteAll rule nodes.reverse = (nodes.map (Node.rewrite rule)).reverse := by
  rw [Node.rewriteAll_eq_map, List.map_reverse]

theorem rewrite_comma (avoids : rule.AvoidsWords) (asm : Assembly) :
    asm.comma.rewrite rule = (asm.rewrite rule).comma := by
  obtain ⟨nodes, frames⟩ := asm
  cases frames with
  | nil => exact rewrite_pushText avoids _ ","
  | cons frame frames =>
    obtain ⟨opening, position, args, before⟩ := frame
    cases opening with
    | call name =>
      simp only [comma, rewrite, Frame.rewrite, List.map_cons, List.map_nil, Node.rewrite,
        rewriteAll_reverse]
    | group => exact rewrite_pushText avoids _ ","

theorem rewriteAll_arguments (args nodes : List Node) :
    Node.rewriteAll rule (arguments args nodes) =
      arguments (args.map (Node.rewrite rule)) (nodes.map (Node.rewrite rule)) := by
  simp only [arguments, List.isEmpty_map]
  split
  · rfl
  · rw [rewriteAll_reverse, List.map_cons, Node.rewrite, rewriteAll_reverse]

/-- Where a call closes, the rule finds the arguments rewritten. -/
theorem rewrite_closeParen (avoids : rule.AvoidsWords) (asm : Assembly) :
    (asm.closeParen .plain).rewrite rule = (asm.rewrite rule).closeParen rule := by
  obtain ⟨nodes, frames⟩ := asm
  cases frames with
  | nil => exact rewrite_pushText avoids _ ")"
  | cons frame frames =>
    obtain ⟨opening, position, args, before⟩ := frame
    cases opening with
    | call name =>
      simp only [closeParen, rewrite, Frame.rewrite, List.map_cons, CallRule.plain, Node.rewrite,
        rewriteAll_arguments]
    | group =>
      simp only [closeParen, rewrite, Frame.rewrite, List.map_cons, Node.rewrite,
        rewriteAll_reverse]

theorem rewrite_add (avoids : rule.AvoidsWords) (asm : Assembly) (lexeme : Lexeme) :
    (asm.add .plain lexeme).rewrite rule = (asm.rewrite rule).add rule lexeme := by
  obtain ⟨token, position⟩ := lexeme
  cases token with
  | mark c =>
    simp only [add]
    split
    · exact rewrite_openParen avoids asm position
    split
    · exact rewrite_comma avoids asm
    split
    · exact rewrite_closeParen avoids asm
    · exact rewrite_pushText avoids asm c.toString
  | number text => exact rewrite_push asm (.number text)
  | blank => exact rewrite_pushSpace avoids asm
  | identifier name => exact rewrite_pushText avoids asm name
  | quoted text delimiter => exact rewrite_push asm (.quoted text delimiter)
  | dollar => exact rewrite_push asm (.literal "$")
  | parameter p => exact rewrite_push asm (.parameter p)
  | other c => exact rewrite_pushText avoids asm c.toString

/-- Reading with a rule keeps up with reading without one, and ends inside the same frame if it ends
inside one. -/
theorem run_rewrite (avoids : rule.AvoidsWords) (asm : Assembly) (lexemes : List Lexeme) :
    run rule (asm.rewrite rule) lexemes =
      (run .plain asm lexemes).map (List.map (Node.rewrite rule)) := by
  induction asm, lexemes using run_induction .plain with
  | done asm =>
    obtain ⟨nodes, frames⟩ := asm
    cases frames with
    | nil => simp only [run, rewrite, List.map_nil, Except.map, List.map_reverse]
    | cons frame frames => rfl
  | call asm lexeme next later name identifier paren ih =>
    rw [run_call identifier paren, run_call identifier paren, ← ih]
    rfl
  | other asm lexeme later noCall ih =>
    rw [run_cons noCall, run_cons noCall, ← ih, rewrite_add avoids]

end Assembly

/-! ## Aliases -/

namespace CallRule

/-- The targets of aliases by the lower-case form of their names. Aliases enter one by one, and one
replaces another of the same form. -/
def aliasTable (pairs : List (String × String)) : String → Option String :=
  pairs.foldl (fun table pair => Function.update table (Text.lower pair.1) (some pair.2)) fun _ => none

/-- The name that a call has under aliases: its own, unless the lower-case form of it has an alias. -/
def aliased (pairs : List (String × String)) (name : String) : String :=
  (aliasTable pairs (Text.lower name)).getD name

theorem aliasTable_append (pairs : List (String × String)) (pair : String × String) :
    aliasTable (pairs ++ [pair]) =
      Function.update (aliasTable pairs) (Text.lower pair.1) (some pair.2) := by
  rw [aliasTable, List.foldl_append, List.foldl_cons, List.foldl_nil]
  rfl

/-- The alias in the table is the last one of its form. -/
theorem aliasTable_eq_find? (pairs : List (String × String)) (key : String) :
    aliasTable pairs key =
      (pairs.reverse.find? fun pair => Text.lower pair.1 = key).map Prod.snd := by
  induction pairs using List.reverseRecOn with
  | nil => rfl
  | append_singleton pairs pair ih =>
    rw [aliasTable_append, List.reverse_append, List.reverse_singleton, List.singleton_append,
      List.find?_cons]
    by_cases same : Text.lower pair.1 = key
    · simp [same]
    · rw [Function.update_of_ne (Ne.symm same), ih]
      simp [same]

theorem aliases_eq_call (pairs : List (String × String)) (name : String) (args : List Node) :
    aliases pairs name args = .call (aliased pairs name) args := by
  rw [aliases, aliased, aliasTable_eq_find?]
  split
  · rename_i found
    rw [found]
    rfl
  · rename_i found
    rw [found]
    rfl

theorem aliases_avoidsWords (pairs : List (String × String)) : (aliases pairs).AvoidsWords := by
  intro name args text
  rw [aliases_eq_call]
  nofun

end CallRule

namespace Node

mutual

/-- Aliases change the names of calls, at every depth and once, and nothing else. -/
theorem rewrite_aliases (pairs : List (String × String)) (node : Node) :
    node.rewrite (.aliases pairs) = node.rename (CallRule.aliased pairs) := by
  cases node with
  | call name args =>
    rw [rewrite, rename, CallRule.aliases_eq_call, rewriteAll_aliases pairs args]
  | sequence children => rw [rewrite, rename, rewriteAll_aliases pairs children]
  | group children => rw [rewrite, rename, rewriteAll_aliases pairs children]
  | _ => rfl

theorem rewriteAll_aliases (pairs : List (String × String)) (nodes : List Node) :
    rewriteAll (.aliases pairs) nodes = renameAll (CallRule.aliased pairs) nodes := by
  cases nodes with
  | nil => rfl
  | cons node nodes =>
    rw [rewriteAll, renameAll, rewrite_aliases pairs node, rewriteAll_aliases pairs nodes]

end

end Node

/-! ## Reading with a rule -/

namespace TemplateCompiler

/-- The compiler with another rule for calls, or none. -/
def withRule (compiler : TemplateCompiler) (callRule? : Option CallRule) : TemplateCompiler :=
  { compiler with callRule? }

theorem parse_rewrite (avoids : rule.AvoidsWords) (compiler : TemplateCompiler) (text : String) :
    (compiler.withRule rule).parse text =
      ((compiler.withRule none).parse text).map (Node.rewrite rule) := by
  simp only [parse, withRule, Node.parse_eq, Node.ofLexemes, Option.getD_some, Option.getD_none,
    Except.bind]
  cases Token.scan compiler.options text.toList with
  | error e => rfl
  | ok lexemes =>
    have run := Assembly.run_rewrite avoids ⟨[], []⟩ lexemes
    simp only [Assembly.rewrite, List.map_nil] at run
    simp only [run]
    cases Assembly.run .plain ⟨[], []⟩ lexemes with
    | error e => rfl
    | ok nodes => simp only [Except.map, Node.rewrite, Node.rewriteAll_eq_map]

/-- Reading with a rule that avoids words is reading without a rule and rewriting the tree, with the
same failures. Aliases are such a rule: they rename the calls whose names have an alias. -/
theorem parse_withRule (compiler : TemplateCompiler) (text : String) :
    (∀ rule : CallRule, rule.AvoidsWords → (compiler.withRule rule).parse text =
      ((compiler.withRule none).parse text).map (Node.rewrite rule)) ∧
    ∀ pairs, (compiler.withRule (some (.aliases pairs))).parse text =
      ((compiler.withRule none).parse text).map (Node.rename (CallRule.aliased pairs)) := by
  constructor
  · intro rule avoids
    exact parse_rewrite avoids compiler text
  · intro pairs
    rw [parse_rewrite (CallRule.aliases_avoidsWords pairs),
      funext (Node.rewrite_aliases pairs)]

/-- A rule that puts calls between parentheses meets each of them once, the inner one first, and of two
aliases of one name the later one counts. -/
theorem lenient_parse_withRule : ∃ rule : CallRule, rule.AvoidsWords ∧
    (lenient.withRule rule).parse "now(a, (Now(2)))x" = .ok (.sequence [
      .group [.call "now" [.sequence [.word "a"],
        .sequence [.word " ", .group [.group [.call "Now" [.sequence [.number "2"]]]]]]],
      .word "x"]) ∧
    (lenient.withRule (some (.aliases [("NOW", "now"), ("nOw", "T")]))).parse "now(a, (Now(2)))x" =
      .ok (.sequence [
        .call "T" [.sequence [.word "a"],
          .sequence [.word " ", .group [.call "T" [.sequence [.number "2"]]]]],
        .word "x"]) := by
  let rule : CallRule := fun name args => .group [.call name args]
  have avoids : rule.AvoidsWords := by
    intro name args text
    nofun
  have plain : (lenient.withRule none).parse "now(a, (Now(2)))x" = .ok (.sequence [
      .call "now" [.sequence [.word "a"],
        .sequence [.word " ", .group [.call "Now" [.sequence [.number "2"]]]]],
      .word "x"]) := by
    decide +kernel
  obtain ⟨rewritten, renamed⟩ := parse_withRule lenient "now(a, (Now(2)))x"
  refine ⟨rule, avoids, ?_, ?_⟩
  · rw [rewritten rule avoids, plain]
    rfl
  · rw [renamed, plain]
    decide +kernel

/-- What follows a call attaches to the word that a rule puts in its place. -/
example : (lenient.withRule (some fun _ _ => .word "w")).parse "f()x" =
    .ok (.sequence [.word "wx"]) := by
  decide +kernel

end TemplateCompiler

end TransactionKit
