import TransactionKit.Template.Parameter
import TransactionKit.Text.Quoted

/-!
The tree of a statement template. A node shows its source by `Node.source`: text as it stands,
literals quoted again, calls with their arguments between parentheses, parameters between dollar
signs. The source of the tree of a template is the template with its blanks normalised.
-/

namespace TransactionKit

/-- One element of a statement template. -/
inductive Node where
  /-- Fixed text; a single dollar sign comes from a doubled one. -/
  | literal (text : String)
  /-- Nodes in order. -/
  | sequence (children : List Node)
  /-- Nodes between parentheses, inside an argument of a call. -/
  | group (children : List Node)
  | number (text : String)
  /-- A run of identifiers, operators, punctuation and blanks. -/
  | word (text : String)
  /-- The text inside a literal and the quote character around it. -/
  | quoted (text : String) (delimiter : Char)
  /-- A function name applied to arguments. -/
  | call (name : String) (args : List Node)
  | parameter (p : Parameter)
deriving Repr, Inhabited

namespace Node

mutual

/-- Equality of nodes is decided part by part. -/
def decEq (a b : Node) : Decidable (a = b) := by
  cases a <;> cases b
  case literal.literal s t => exact decidable_of_iff (s = t) (by simp)
  case number.number s t => exact decidable_of_iff (s = t) (by simp)
  case word.word s t => exact decidable_of_iff (s = t) (by simp)
  case quoted.quoted s c t d => exact decidable_of_iff (s = t ∧ c = d) (by simp)
  case parameter.parameter p q => exact decidable_of_iff (p = q) (by simp)
  case sequence.sequence as bs =>
    have := decEqAll as bs
    exact decidable_of_iff (as = bs) (by simp)
  case group.group as bs =>
    have := decEqAll as bs
    exact decidable_of_iff (as = bs) (by simp)
  case call.call f as g bs =>
    have := decEqAll as bs
    exact decidable_of_iff (f = g ∧ as = bs) (by simp)
  all_goals exact isFalse (by simp)

/-- Equality of lists of nodes. -/
def decEqAll (as bs : List Node) : Decidable (as = bs) := by
  cases as <;> cases bs
  case nil.nil => exact isTrue rfl
  case cons.cons a as b bs =>
    have := decEq a b
    have := decEqAll as bs
    exact decidable_of_iff (a = b ∧ as = bs) (by simp)
  all_goals exact isFalse (by simp)

end

instance : DecidableEq Node := decEq

mutual

/-- The text a node stands for in a template. -/
def source : Node → List Char
  | literal text => if text = "$" then ['$', '$'] else text.toList
  | sequence children => sourceAll children
  | group children => '(' :: sourceAll children ++ [')']
  | number text => text.toList
  | word text => text.toList
  | quoted text delimiter => Text.Quoting.encode ⟨delimiter, false⟩ text.toList
  | call name args => name.toList ++ '(' :: sourceArgs args ++ [')']
  | parameter p => p.source.toList

/-- The texts of nodes one after another. -/
def sourceAll : List Node → List Char
  | [] => []
  | node :: nodes => node.source ++ sourceAll nodes

/-- The texts of arguments with commas between them. -/
def sourceArgs : List Node → List Char
  | [] => []
  | [arg] => arg.source
  | arg :: next :: args => arg.source ++ ',' :: sourceArgs (next :: args)

end

/-- The text a node stands for in a template. -/
def display (node : Node) : String :=
  String.ofList node.source

mutual

/-- The parameters of a node in the order of its text. -/
def parameters : Node → List Parameter
  | parameter p => [p]
  | sequence children => parametersAll children
  | group children => parametersAll children
  | call _ args => parametersAll args
  | literal _ | number _ | word _ | quoted _ _ => []

/-- The parameters of nodes one after another. -/
def parametersAll : List Node → List Parameter
  | [] => []
  | node :: nodes => node.parameters ++ parametersAll nodes

end

/-- The keys of the parameters of a node, each once, in the order of first occurrence. -/
def parameterKeys (node : Node) : List String :=
  (node.parameters.map Parameter.key).eraseDups

mutual

/-- The tree of a node in one line. -/
def summary : Node → String
  | literal text => "Literal(" ++ Text.shown text ++ ")"
  | sequence children => "Sequence([" ++ ", ".intercalate (summaries children) ++ "])"
  | group children => "Group([" ++ ", ".intercalate (summaries children) ++ "])"
  | number text => "Number(" ++ Text.shown text ++ ")"
  | word text => "Word(" ++ Text.shown text ++ ")"
  | quoted text delimiter =>
    "Quoted \x7b text: " ++ Text.shown text ++ ", delimiter: " ++ Text.shownChar delimiter ++
      " \x7d"
  | call name args =>
    "FunctionCall(FunctionCall \x7b name: " ++ Text.shown name ++ ", args: [" ++
      ", ".intercalate (summaries args) ++ "] \x7d)"
  | parameter p =>
    "Parameter(Parameter \x7b names: [" ++ ", ".intercalate (p.names.map Text.shown) ++
      "], kind: " ++ (p.kind?.elim "None" fun kind => "Some(" ++ kind.label ++ ")") ++ " \x7d)"

/-- The trees of nodes, each in one line. -/
def summaries : List Node → List String
  | [] => []
  | node :: nodes => node.summary :: summaries nodes

end

example : display (.call "f" [.sequence [.word "a"], .group [.quoted "it's" '\'']]) =
    "f(a,('it''s'))" := by
  decide +kernel

end Node

end TransactionKit
