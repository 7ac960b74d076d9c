import Mathlib.Data.List.Chain
import TransactionKit.Proofs.Template.Descent

/-!
A template as a row of pieces. The pieces of a tree are its characters and its leaves in the order
of its text, whatever words, calls and groups they stand in. The source of a tree, its parameters
and its rendering are read off its pieces, and assembling a tree out of tokens keeps the pieces of
the tokens: `pieces_of_parse`. So a fact about the text of a tree needs no look at the nesting.
-/

namespace TransactionKit

/-- A part of a template that is not divided any further. -/
inductive Piece where
  /-- A character outside literals and parameters. -/
  | char (c : Char)
  /-- A doubled dollar sign. -/
  | dollar
  | quoted (text : String) (delimiter : Char)
  | parameter (p : Parameter)
deriving DecidableEq, Repr, Inhabited

namespace Piece

/-- The characters of a text. -/
def ofText (text : String) : List Piece :=
  text.toList.map char

@[simp]
theorem ofText_append (s t : String) : ofText (s ++ t) = ofText s ++ ofText t := by
  simp [ofText]

@[simp]
theorem ofText_toString (c : Char) : ofText c.toString = [char c] := by
  simp [ofText]

/-- The text that a piece stands for in a template. -/
def source : Piece → List Char
  | char c => [c]
  | dollar => ['$', '$']
  | quoted text delimiter => Text.Quoting.encode ⟨delimiter, false⟩ text.toList
  | parameter p => p.source.toList

/-- The parameter that a piece is. -/
def parameter? : Piece → Option Parameter
  | parameter p => some p
  | char _ | dollar | quoted _ _ => none

/-- The text that a piece gives in a statement. -/
def render (context : RenderContext) : Piece → Rendering String
  | char c => pure c.toString
  | dollar => pure "$"
  | quoted text delimiter =>
    pure (String.ofList (Text.Quoting.encode ⟨delimiter, false⟩ text.toList))
  | parameter p => Rendering.parameter context p

/-- The texts that pieces give one after another. -/
def renderAll (context : RenderContext) : List Piece → Rendering String
  | [] => pure ""
  | piece :: pieces => do
    let head ← piece.render context
    return head ++ (← renderAll context pieces)

theorem renderAll_append (context : RenderContext) (first second : List Piece) :
    renderAll context (first ++ second) = do
      let head ← renderAll context first
      return head ++ (← renderAll context second) := by
  induction first with
  | nil => simp only [List.nil_append, renderAll, pure_bind, String.empty_append, bind_pure]
  | cons piece first ih =>
    simp only [List.cons_append, renderAll, ih, bind_assoc, pure_bind, String.append_assoc]

theorem renderAll_ofText (context : RenderContext) (text : String) :
    renderAll context (ofText text) = pure text := by
  have characters : ∀ cs : List Char,
      renderAll context (cs.map char) = pure (String.ofList cs) := by
    intro cs
    induction cs with
    | nil => rfl
    | cons c cs ih =>
      simp only [List.map_cons, renderAll, render, ih, pure_bind]
      simp
  simpa [ofText] using characters text.toList

theorem flatMap_source_ofText (text : String) : (ofText text).flatMap source = text.toList := by
  simp [ofText, List.flatMap_map, source]

theorem filterMap_parameter?_ofText (text : String) : (ofText text).filterMap parameter? = [] := by
  simp [ofText, List.filterMap_map, Function.comp_def, parameter?]

end Piece

/-! ## The pieces of a tree -/

namespace Node

mutual

/-- The pieces of a node. -/
def pieces : Node → List Piece
  | literal text => if text = "$" then [.dollar] else Piece.ofText text
  | sequence children => piecesAll children
  | group children => .char '(' :: piecesAll children ++ [.char ')']
  | number text => Piece.ofText text
  | word text => Piece.ofText text
  | quoted text delimiter => [.quoted text delimiter]
  | call name args => Piece.ofText name ++ .char '(' :: piecesArgs args ++ [.char ')']
  | parameter p => [.parameter p]

/-- The pieces of nodes one after another. -/
def piecesAll : List Node → List Piece
  | [] => []
  | node :: nodes => node.pieces ++ piecesAll nodes

/-- The pieces of arguments with commas between them. -/
def piecesArgs : List Node → List Piece
  | [] => []
  | [arg] => arg.pieces
  | arg :: next :: args => arg.pieces ++ .char ',' :: piecesArgs (next :: args)

end

@[simp]
theorem piecesAll_eq_flatMap (nodes : List Node) : piecesAll nodes = nodes.flatMap pieces := by
  induction nodes with
  | nil => rfl
  | cons node nodes ih => rw [piecesAll, ih, List.flatMap_cons]

/-- All arguments but the last have a comma after them. -/
theorem piecesArgs_append_singleton (args : List Node) (last : Node) :
    piecesArgs (args ++ [last]) =
      args.flatMap (fun arg => arg.pieces ++ [.char ',']) ++ last.pieces := by
  induction args with
  | nil => rfl
  | cons arg args ih =>
    cases args with
    | nil => simp [piecesArgs]
    | cons next args =>
      rw [List.cons_append, List.cons_append, piecesArgs, ← List.cons_append, ih]
      simp

mutual

/-- The text of a node is that of its pieces. -/
theorem source_eq_flatMap : ∀ node : Node, node.source = node.pieces.flatMap Piece.source
  | literal text => by
      by_cases dollar : text = "$"
      · simp [source, pieces, dollar, Piece.source]
      · simp [source, pieces, dollar, Piece.flatMap_source_ofText]
  | sequence children => by rw [source, pieces, sourceAll_eq_flatMap children]
  | group children => by
      rw [source, pieces, sourceAll_eq_flatMap children]
      simp [Piece.source]
  | number text => by rw [source, pieces, Piece.flatMap_source_ofText]
  | word text => by rw [source, pieces, Piece.flatMap_source_ofText]
  | quoted text delimiter => by simp [source, pieces, Piece.source]
  | call name args => by
      rw [source, pieces, sourceArgs_eq_flatMap args]
      simp [Piece.source, Piece.flatMap_source_ofText]
  | parameter p => by simp [source, pieces, Piece.source]

theorem sourceAll_eq_flatMap :
    ∀ nodes : List Node, sourceAll nodes = (piecesAll nodes).flatMap Piece.source
  | [] => rfl
  | node :: nodes => by
      rw [sourceAll, piecesAll, source_eq_flatMap node, sourceAll_eq_flatMap nodes,
        List.flatMap_append]

theorem sourceArgs_eq_flatMap :
    ∀ args : List Node, sourceArgs args = (piecesArgs args).flatMap Piece.source
  | [] => rfl
  | [arg] => by rw [sourceArgs, piecesArgs, source_eq_flatMap arg]
  | arg :: next :: args => by
      rw [sourceArgs, piecesArgs, source_eq_flatMap arg, sourceArgs_eq_flatMap (next :: args)]
      simp [Piece.source]

end

mutual

/-- The parameters of a node are those among its pieces. -/
theorem parameters_eq_filterMap :
    ∀ node : Node, node.parameters = node.pieces.filterMap Piece.parameter?
  | literal text => by
      by_cases dollar : text = "$"
      · simp [parameters, pieces, dollar, Piece.parameter?]
      · simp [parameters, pieces, dollar, Piece.filterMap_parameter?_ofText]
  | sequence children => by rw [parameters, pieces, parametersAll_eq_filterMap children]
  | group children => by
      rw [parameters, pieces, parametersAll_eq_filterMap children]
      simp [List.filterMap_cons, Piece.parameter?]
  | number text => by rw [parameters, pieces, Piece.filterMap_parameter?_ofText]
  | word text => by rw [parameters, pieces, Piece.filterMap_parameter?_ofText]
  | quoted text delimiter => rfl
  | call name args => by
      rw [parameters, pieces, parametersArgs_eq_filterMap args]
      simp [List.filterMap_cons, Piece.parameter?, Piece.filterMap_parameter?_ofText]
  | parameter p => rfl

theorem parametersAll_eq_filterMap :
    ∀ nodes : List Node, parametersAll nodes = (piecesAll nodes).filterMap Piece.parameter?
  | [] => rfl
  | node :: nodes => by
      rw [parametersAll, piecesAll, parameters_eq_filterMap node, parametersAll_eq_filterMap nodes,
        List.filterMap_append]

theorem parametersArgs_eq_filterMap :
    ∀ args : List Node, parametersAll args = (piecesArgs args).filterMap Piece.parameter?
  | [] => rfl
  | [arg] => by
      rw [parametersAll, parametersAll, piecesArgs, parameters_eq_filterMap arg, List.append_nil]
  | arg :: next :: args => by
      rw [parametersAll, piecesArgs, parameters_eq_filterMap arg,
        parametersArgs_eq_filterMap (next :: args)]
      simp [List.filterMap_cons, Piece.parameter?]

end

mutual

/-- A node gives the texts of its pieces. -/
theorem render_eq_renderAll (context : RenderContext) :
    ∀ node : Node, node.render context = Piece.renderAll context node.pieces
  | literal text => by
      by_cases dollar : text = "$"
      · simp [render, pieces, dollar, Piece.renderAll, Piece.render]
      · simp [render, pieces, dollar, Piece.renderAll_ofText]
  | sequence children => by rw [render, pieces, renderAll_eq_renderAll context children]
  | group children => by
      rw [render, pieces, renderAll_eq_renderAll context children]
      simp only [List.cons_append, Piece.renderAll, Piece.renderAll_append, Piece.render,
        bind_assoc, pure_bind, String.append_assoc, String.append_empty]
      rfl
  | number text => by rw [render, pieces, Piece.renderAll_ofText]
  | word text => by rw [render, pieces, Piece.renderAll_ofText]
  | quoted text delimiter => by
      simp [render, pieces, Piece.renderAll, Piece.render]
  | call name args => by
      rw [render, pieces, renderArgs_eq_renderAll context args]
      simp only [List.cons_append, List.append_assoc, Piece.renderAll, Piece.renderAll_append,
        Piece.render, Piece.renderAll_ofText, bind_assoc, pure_bind, String.append_assoc,
        String.append_empty]
      rfl
  | parameter p => by
      simp [render, pieces, Piece.renderAll, Piece.render]

theorem renderAll_eq_renderAll (context : RenderContext) :
    ∀ nodes : List Node, renderAll context nodes = Piece.renderAll context (piecesAll nodes)
  | [] => rfl
  | node :: nodes => by
      rw [renderAll, piecesAll, render_eq_renderAll context node,
        renderAll_eq_renderAll context nodes, Piece.renderAll_append]

theorem renderArgs_eq_renderAll (context : RenderContext) :
    ∀ args : List Node, renderArgs context args = Piece.renderAll context (piecesArgs args)
  | [] => rfl
  | [arg] => by rw [renderArgs, piecesArgs, render_eq_renderAll context arg]
  | arg :: next :: args => by
      rw [renderArgs, piecesArgs, render_eq_renderAll context arg,
        renderArgs_eq_renderAll context (next :: args), Piece.renderAll_append]
      simp only [Piece.renderAll, Piece.render, bind_assoc, pure_bind, String.append_assoc]
      rfl

end

end Node

/-! ## From tokens to pieces -/

/-- The pieces that a token stands for; a run of blanks is one space. -/
def Token.pieces : Token → List Piece
  | .number text => Piece.ofText text
  | .blank => [.char ' ']
  | .mark c => [.char c]
  | .identifier name => Piece.ofText name
  | .quoted text delimiter => [.quoted text delimiter]
  | .dollar => [.dollar]
  | .parameter p => [.parameter p]
  | .other c => [.char c]

/-- Neighbours that are not both spaces. -/
def Piece.Apart (first second : Piece) : Prop :=
  first = .char ' ' → second ≠ .char ' '

/-- The pieces of an open frame: what stands before it, its opening, and its finished arguments
with a comma after each. -/
def Frame.pieces (frame : Frame) : List Piece :=
  Node.piecesAll frame.before.reverse ++
    match frame.opening with
    | .call name =>
      Piece.ofText name ++ .char '(' ::
        frame.args.reverse.flatMap fun arg => arg.pieces ++ [.char ',']
    | .group => [.char '(']

namespace Assembly

/-- The pieces of a tree under construction. -/
def pieces (asm : Assembly) : List Piece :=
  asm.frames.reverse.flatMap Frame.pieces ++ Node.piecesAll asm.nodes.reverse

theorem pieces_push (asm : Assembly) (node : Node) :
    (asm.push node).pieces = asm.pieces ++ node.pieces := by
  simp [push, pieces]

theorem pieces_pushText (asm : Assembly) (text : String) :
    (asm.pushText text).pieces = asm.pieces ++ Piece.ofText text := by
  unfold pushText Node.pushText
  split
  · rename_i word nodes last
    simp [pieces, last, Node.pieces]
  · exact pieces_push asm (.word text)

/-- A space is added unless there is one at the end. -/
theorem pieces_pushSpace {asm : Assembly}
    (apart : (asm.pieces ++ [Piece.char ' ']).IsChain Piece.Apart) :
    asm.pushSpace.pieces = asm.pieces ++ [.char ' '] := by
  unfold pushSpace Node.pushSpace
  split
  · rename_i word nodes last
    split
    · rename_i space
      have ends : asm.pieces.getLast? = some (.char ' ') := by
        simp [pieces, last, Node.pieces, Piece.ofText, List.getLast?_append, space]
      obtain ⟨-, -, border⟩ := List.isChain_append.mp apart
      exact absurd rfl (border (.char ' ') ends (.char ' ') rfl rfl)
    · simp [pieces, last, Node.pieces, Piece.ofText]
  · exact pieces_push asm (.word " ")

theorem pieces_enter_call (asm : Assembly) (name : String) (position : Nat) :
    (asm.enter (.call name) position).pieces =
      asm.pieces ++ (Piece.ofText name ++ [.char '(']) := by
  simp [enter, pieces, Frame.pieces]

theorem pieces_openParen (asm : Assembly) (position : Nat) :
    (asm.openParen position).pieces = asm.pieces ++ [.char '('] := by
  unfold openParen
  split
  · exact pieces_pushText asm "("
  · simp [enter, pieces, Frame.pieces]

theorem pieces_comma (asm : Assembly) : asm.comma.pieces = asm.pieces ++ [.char ','] := by
  unfold comma
  split
  · rename_i name position args before frames open'
    simp [pieces, open', Frame.pieces, Node.pieces]
  · exact pieces_pushText asm ","

/-- The arguments of a call are its finished ones and what stands after the last comma. -/
theorem piecesArgs_arguments (args nodes : List Node) :
    Node.piecesArgs (arguments args nodes) =
      args.reverse.flatMap (fun arg => arg.pieces ++ [.char ',']) ++
        Node.piecesAll nodes.reverse := by
  unfold arguments
  split
  · rename_i none
    simp only [Bool.and_eq_true, List.isEmpty_iff] at none
    simp [none, Node.piecesArgs]
  · rw [List.reverse_cons, Node.piecesArgs_append_singleton, Node.pieces]

theorem pieces_closeParen (asm : Assembly) :
    (asm.closeParen .plain).pieces = asm.pieces ++ [.char ')'] := by
  unfold closeParen
  split
  · exact pieces_pushText asm ")"
  · rename_i name position args before frames open'
    simp [pieces, open', Frame.pieces, Node.pieces, CallRule.plain, piecesArgs_arguments]
  · rename_i position args before frames open'
    simp [pieces, open', Frame.pieces, Node.pieces]

/-- Adding a token adds its pieces. -/
theorem pieces_add {asm : Assembly} {lexeme : Lexeme}
    (apart : (asm.pieces ++ lexeme.token.pieces).IsChain Piece.Apart) :
    (asm.add .plain lexeme).pieces = asm.pieces ++ lexeme.token.pieces := by
  unfold add
  cases shape : lexeme.token with
  | number text => exact pieces_push asm (.number text)
  | blank =>
    rw [shape] at apart
    exact pieces_pushSpace apart
  | mark c =>
    dsimp only
    split
    · rename_i same
      subst same
      exact pieces_openParen asm lexeme.position
    split
    · rename_i same
      subst same
      exact pieces_comma asm
    split
    · rename_i same
      subst same
      exact pieces_closeParen asm
    · rw [pieces_pushText, Piece.ofText_toString]
      rfl
  | identifier name => exact pieces_pushText asm name
  | quoted text delimiter => exact pieces_push asm (.quoted text delimiter)
  | dollar => exact pieces_push asm (.literal "$")
  | parameter p => exact pieces_push asm (.parameter p)
  | other c =>
    rw [pieces_pushText, Piece.ofText_toString]
    rfl

/-- Adding the first of a row of tokens moves its pieces into the tree. -/
theorem pieces_add_cons {asm : Assembly} {lexeme : Lexeme} {later : List Lexeme}
    (apart : (asm.pieces ++ (lexeme :: later).flatMap (·.token.pieces)).IsChain Piece.Apart) :
    asm.pieces ++ (lexeme :: later).flatMap (·.token.pieces) =
      (asm.add .plain lexeme).pieces ++ later.flatMap (·.token.pieces) := by
  rw [List.flatMap_cons, ← List.append_assoc] at apart ⊢
  rw [pieces_add apart.left_of_append]

/-- The nodes that a row of tokens is assembled to have the pieces of the tokens. -/
theorem pieces_of_run {asm : Assembly} {lexemes : List Lexeme} {nodes : List Node}
    (assembled : run .plain asm lexemes = .ok nodes)
    (apart : (asm.pieces ++ lexemes.flatMap (·.token.pieces)).IsChain Piece.Apart) :
    Node.piecesAll nodes = asm.pieces ++ lexemes.flatMap (·.token.pieces) := by
  induction asm, lexemes using run_induction .plain with
  | done asm =>
    obtain ⟨last, frames⟩ := asm
    cases frames with
    | nil =>
      cases assembled
      simp [pieces]
    | cons => cases assembled
  | call asm lexeme next later name identifier paren ih =>
    have entered : asm.pieces ++ (lexeme :: next :: later).flatMap (·.token.pieces) =
        (asm.enter (.call name) lexeme.position).pieces ++ later.flatMap (·.token.pieces) := by
      rw [pieces_enter_call]
      simp [identifier, paren, Token.pieces]
    rw [run_call identifier paren] at assembled
    rw [entered] at apart ⊢
    exact ih assembled apart
  | other asm lexeme later noCall ih =>
    have moved := pieces_add_cons apart
    rw [run_cons noCall] at assembled
    rw [moved] at apart ⊢
    exact ih assembled apart

end Assembly

/-! ## The pieces of a template -/

/-- What the options allow a piece to be, spaces apart. -/
def Piece.Proper (options : TemplateOptions) : Piece → Prop
  | char c => Token.isPlain options c = true
  | dollar => options.parameters = true
  | quoted _ delimiter => Token.isQuote delimiter = true
  | parameter _ => options.parameters = true

theorem Piece.isQuote_of_char {options : TemplateOptions} {c : Char}
    (proper : char c = char ' ' ∨ (char c).Proper options) : Token.isQuote c = false := by
  rcases proper with space | plain
  · cases space
    rfl
  · exact Token.isQuote_eq_false_of_isPlain plain

theorem Piece.isQuote_of_quoted {options : TemplateOptions} {text : String} {delimiter : Char}
    (proper : quoted text delimiter = char ' ' ∨ (quoted text delimiter).Proper options) :
    Token.isQuote delimiter = true := by
  rcases proper with space | quote
  · cases space
  · exact quote

theorem Piece.proper_ofText {options : TemplateOptions} {cs : List Char}
    (plain : ∀ c ∈ cs, Token.isPlain options c = true) :
    ∀ piece ∈ Piece.ofText (String.ofList cs), piece.Proper options := by
  intro piece member
  simp only [Piece.ofText, String.toList_ofList, List.mem_map] at member
  obtain ⟨c, member, rfl⟩ := member
  exact plain c member

namespace Token

theorem Reads.proper {options : TemplateOptions} {cs after : List Char} {token : Token}
    (reads : Reads options cs token after) :
    token = .blank ∨ ∀ piece ∈ token.pieces, piece.Proper options := by
  cases reads with
  | number digit parts stops =>
    right
    exact Piece.proper_ofText (isPlain_of_number digit parts)
  | blank space parts stops => exact .inl rfl
  | mark punctuation =>
    right
    rintro _ (_ | ⟨_, ⟨⟩⟩)
    exact isPlain_of_isPunctuation punctuation
  | identifier start parts stops =>
    right
    exact Piece.proper_ofText (isPlain_of_identifier start parts)
  | quoted quote stops =>
    right
    rintro _ (_ | ⟨_, ⟨⟩⟩)
    exact quote
  | dollar enabled =>
    right
    rintro _ (_ | ⟨_, ⟨⟩⟩)
    exact enabled
  | parameter enabled nonempty closed between =>
    right
    rintro _ (_ | ⟨_, ⟨⟩⟩)
    exact enabled
  | other lenient digit space punctuation start region =>
    right
    rintro _ (_ | ⟨_, ⟨⟩⟩)
    simp [Piece.Proper, isPlain, space, region]

theorem Scanned.proper {options : TemplateOptions} {cs : List Char} {lexemes : List Lexeme}
    (scanned : Scanned options cs lexemes) :
    ∀ piece ∈ lexemes.flatMap (·.token.pieces), piece = .char ' ' ∨ piece.Proper options := by
  induction scanned with
  | nil =>
    intro piece member
    cases member
  | cons reads scanned ih =>
    intro piece member
    rw [List.flatMap_cons, List.mem_append] at member
    rcases member with first | later
    · rcases reads.proper with rfl | proper
      · exact .inl (List.mem_singleton.mp first)
      · exact .inr (proper piece first)
    · exact ih piece later

theorem Reads.pieces_ne_nil {options : TemplateOptions} {cs after : List Char} {token : Token}
    (reads : Reads options cs token after) : token.pieces ≠ [] := by
  cases reads <;> simp [pieces, Piece.ofText]

/-- A text that does not start with a blank does not start with the token of one. -/
theorem Scanned.head_ne_space {options : TemplateOptions} {cs : List Char} {lexemes : List Lexeme}
    (scanned : Scanned options cs lexemes) (first : ∀ c ∈ cs.head?, isSpace c = false) :
    ∀ piece ∈ (lexemes.flatMap (·.token.pieces)).head?, piece ≠ .char ' ' := by
  cases scanned with
  | nil =>
    intro piece member
    cases member
  | cons reads scanned =>
    intro piece member
    rw [List.flatMap_cons, List.head?_append_of_ne_nil _ reads.pieces_ne_nil] at member
    rcases reads.proper with blank | proper
    · subst blank
      cases reads with
      | blank space parts stops =>
        rw [first _ rfl] at space
        cases space
    · rintro rfl
      have plain : isPlain options ' ' = true := proper _ (List.mem_of_mem_head? member)
      cases plain

/-- A run of blanks is one token, so there are never two spaces side by side. -/
theorem Scanned.apart {options : TemplateOptions} {cs : List Char} {lexemes : List Lexeme}
    (scanned : Scanned options cs lexemes) :
    (lexemes.flatMap (·.token.pieces)).IsChain Piece.Apart := by
  induction scanned with
  | nil => exact .nil
  | @cons cs after token position lexemes reads scanned ih =>
    rw [List.flatMap_cons]
    rcases reads.proper with blank | proper
    · subst blank
      cases reads with
      | blank space parts stops =>
        refine List.IsChain.cons ih ?_
        intro piece first _
        exact scanned.head_ne_space stops piece first
    · have notSpace : ∀ piece ∈ token.pieces, piece ≠ .char ' ' := by
        rintro piece member rfl
        have plain : isPlain options ' ' = true := proper _ member
        cases plain
      refine List.IsChain.append ?_ ih ?_
      · apply List.Pairwise.isChain
        apply List.pairwise_of_forall_mem_list
        intro first member second _ space
        exact absurd space (notSpace first member)
      · intro last member _ _ space
        exact absurd space (notSpace last (List.mem_of_mem_getLast? member))

end Token

/-- A template that is read has the tokens of its text, and its tree has their pieces. -/
theorem TemplateCompiler.pieces_of_parse {compiler : TemplateCompiler}
    (plain : compiler.callRule? = none) {text : String} {tree : Node}
    (parsed : compiler.parse text = .ok tree) :
    ∃ lexemes, Token.Scanned compiler.options text.toList lexemes ∧
      tree.pieces = lexemes.flatMap (·.token.pieces) := by
  obtain ⟨lexemes, nodes, scan, assembled, rfl⟩ := parse_eq_ok_iff.mp parsed
  rw [plain, Option.getD_none] at assembled
  have scanned := Token.scanned_of_scan scan
  exact ⟨lexemes, scanned, Assembly.pieces_of_run assembled scanned.apart⟩

end TransactionKit
