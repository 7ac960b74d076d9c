import TransactionKit.Template.Descent

/-!
From tokens to a tree, one token at a time. The calls and groups that are open stand on a stack, and
no token is looked at again: an identifier directly before a parenthesis opens a call, every other
opening parenthesis opens a group if something is open, and a closing one ends what was opened last.
What is proved about all templates goes along these moves; `Proofs/Template/Descent` shows that they
build the tree that reading by descent finds.
-/

namespace TransactionKit

/-- What an opening parenthesis has opened. -/
inductive Opening where
  | call (name : String)
  | group
deriving DecidableEq, Repr, Inhabited

/-- A call or group whose closing parenthesis is still to come. -/
structure Frame where
  opening : Opening
  /-- Where the call or group starts. -/
  position : Nat
  /-- The finished arguments of a call, last first. -/
  args : List Node
  /-- The nodes before the call or group in what encloses it, last first. -/
  before : List Node
deriving Repr, Inhabited

namespace Frame

/-- The failure of a template that ends inside the frame. -/
def unterminated (frame : Frame) : Error :=
  match frame.opening with
  | .call _ => .unterminated .functionCall frame.position
  | .group => .unterminated .group frame.position

end Frame

/-- A tree under construction: the nodes read so far in the innermost open frame, last first, and
the open frames, innermost first. -/
structure Assembly where
  nodes : List Node
  frames : List Frame
deriving Repr, Inhabited

namespace Assembly

/-- Add a node. -/
def push (asm : Assembly) (node : Node) : Assembly :=
  { asm with nodes := node :: asm.nodes }

def pushText (asm : Assembly) (text : String) : Assembly :=
  { asm with nodes := Node.pushText text asm.nodes }

def pushSpace (asm : Assembly) : Assembly :=
  { asm with nodes := Node.pushSpace asm.nodes }

/-- Open a call or a group. -/
def enter (asm : Assembly) (opening : Opening) (position : Nat) : Assembly :=
  ⟨[], ⟨opening, position, [], asm.nodes⟩ :: asm.frames⟩

/-- An opening parenthesis that belongs to no call. -/
def openParen (asm : Assembly) (position : Nat) : Assembly :=
  if asm.frames.isEmpty then asm.pushText "(" else asm.enter .group position

def comma (asm : Assembly) : Assembly :=
  match asm.frames with
  | ⟨.call name, position, args, before⟩ :: frames =>
    ⟨[], ⟨.call name, position, .sequence asm.nodes.reverse :: args, before⟩ :: frames⟩
  | _ => asm.pushText ","

/-- The arguments of a call at its closing parenthesis: none if nothing stands between the
parentheses, else the finished ones and the nodes since the last comma. -/
def arguments (args nodes : List Node) : List Node :=
  if args.isEmpty && nodes.isEmpty then [] else (.sequence nodes.reverse :: args).reverse

def closeParen (rule : CallRule) (asm : Assembly) : Assembly :=
  match asm.frames with
  | [] => asm.pushText ")"
  | ⟨.call name, _, args, before⟩ :: frames =>
    ⟨rule name (arguments args asm.nodes) :: before, frames⟩
  | ⟨.group, _, _, before⟩ :: frames => ⟨.group asm.nodes.reverse :: before, frames⟩

/-- Add a token that opens no call. -/
def add (rule : CallRule) (asm : Assembly) (lexeme : Lexeme) : Assembly :=
  match lexeme.token with
  | .number text => asm.push (.number text)
  | .blank => asm.pushSpace
  | .mark c =>
    if c = '(' then asm.openParen lexeme.position
    else if c = ',' then asm.comma
    else if c = ')' then asm.closeParen rule
    else asm.pushText c.toString
  | .identifier name => asm.pushText name
  | .quoted text delimiter => asm.push (.quoted text delimiter)
  | .dollar => asm.push (.literal "$")
  | .parameter p => asm.push (.parameter p)
  | .other c => asm.pushText c.toString

/-- Add the remaining tokens of a template; the nodes of the whole, in order. -/
def run (rule : CallRule) (asm : Assembly) : List Lexeme → Except Error (List Node)
  | [] =>
    match asm.frames with
    | [] => .ok asm.nodes.reverse
    | frame :: _ => .error frame.unterminated
  | [lexeme] => run rule (asm.add rule lexeme) []
  | lexeme :: next :: rest =>
    match lexeme.token, next.token with
    | .identifier name, .mark '(' => run rule (asm.enter (.call name) lexeme.position) rest
    | _, _ => run rule (asm.add rule lexeme) (next :: rest)

/-- A token that opens no call is added by itself. -/
theorem run_cons {rule : CallRule} {asm : Assembly} {lexeme : Lexeme} {later : List Lexeme}
    (noCall : ∀ name, lexeme.token = .identifier name → ∀ next ∈ later.head?,
      next.token ≠ .mark '(') :
    run rule asm (lexeme :: later) = run rule (asm.add rule lexeme) later := by
  cases later with
  | nil => simp only [run]
  | cons next later =>
    rw [run]
    split
    · rename_i name call paren
      exact absurd paren (noCall name call next rfl)
    · rfl

/-- An identifier and the parenthesis after it open a call. -/
theorem run_call {rule : CallRule} {asm : Assembly} {lexeme next : Lexeme} {later : List Lexeme}
    {name : String} (call : lexeme.token = .identifier name) (paren : next.token = .mark '(') :
    run rule asm (lexeme :: next :: later) =
      run rule (asm.enter (.call name) lexeme.position) later := by
  rw [run]
  simp only [call, paren]

/-- Induction along a run: at the end of the tokens, at a call and at any other token. -/
theorem run_induction {motive : Assembly → List Lexeme → Prop} (rule : CallRule)
    (done : ∀ asm, motive asm [])
    (call : ∀ asm lexeme next later name, lexeme.token = .identifier name → next.token = .mark '(' →
      motive (asm.enter (.call name) lexeme.position) later → motive asm (lexeme :: next :: later))
    (other : ∀ asm lexeme later, (∀ name, lexeme.token = .identifier name → ∀ next ∈ later.head?,
      next.token ≠ .mark '(') → motive (asm.add rule lexeme) later → motive asm (lexeme :: later))
    (asm : Assembly) (lexemes : List Lexeme) : motive asm lexemes := by
  fun_induction run rule asm lexemes with
  | case1 asm closed => exact done asm
  | case2 asm frame frames open' => exact done asm
  | case3 asm lexeme ih => exact other asm lexeme [] nofun ih
  | case4 asm lexeme next later name paren identifier ih =>
    exact call asm lexeme next later name identifier paren ih
  | case5 asm lexeme next later noCall ih =>
    refine other asm lexeme (next :: later) ?_ ih
    intro name identifier first same paren
    cases same
    exact noCall name identifier paren

end Assembly

/-- The tree of a template from its tokens. -/
def Node.ofLexemes (rule : CallRule) (lexemes : List Lexeme) : Except Error Node :=
  (Assembly.run rule ⟨[], []⟩ lexemes).map .sequence

end TransactionKit
