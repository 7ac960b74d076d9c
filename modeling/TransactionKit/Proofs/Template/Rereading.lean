import TransactionKit.Proofs.Template.Lossless

/-!
Reading a tree back from its text. Normalising a text changes only runs of blanks, so it keeps the
tokens (`Token.Scanned.normalised`), and the tree is made of the tokens alone: positions matter only
to failures (`Assembly.run_unplaced`). Since a tree shows the normalised text it was read from, the
same compiler reads the same tree from what the tree shows: `TemplateCompiler.parse_display`.
-/

namespace TransactionKit

open Token

/-! ## Tokens of normalised text -/

section Normalised

variable {options : TemplateOptions}

/-- Normalised text starts as the text does, with a space for a blank. -/
theorem head?_normalised (cs : List Char) :
    (normalised options none cs).head? = cs.head?.map fun c => if isSpace c then ' ' else c := by
  induction cs with
  | nil => rfl
  | cons c cs ih =>
    rw [normalised]
    by_cases space : isSpace c = true
    · simp only [space, if_true, List.head?_cons, Option.map_some]
      split
      · rename_i more
        cases cs with
        | nil => cases more
        | cons d cs =>
          have blank : isSpace d = true := more
          simpa [blank] using ih
      · rfl
    · simp [space]

/-- What stops a token of a text stops it in the normalised text. -/
theorem stops_normalised {group : Char → Bool} {after : List Char} (noSpace : group ' ' = false)
    (stops : ∀ d ∈ after.head?, group d = false) :
    ∀ d ∈ (normalised options none after).head?, group d = false := by
  intro d first
  rw [head?_normalised] at first
  obtain ⟨c, start, rfl⟩ := Option.map_eq_some_iff.mp first
  split
  · exact noSpace
  · exact stops c start

/-- Normalising adds no blank where there was none. -/
theorem noSpace_normalised {after : List Char} (stops : ∀ d ∈ after.head?, isSpace d = false) :
    ∀ d ∈ (normalised options none after).head?, isSpace d = false := by
  intro d first
  rw [head?_normalised] at first
  obtain ⟨c, start, rfl⟩ := Option.map_eq_some_iff.mp first
  have noSpace : isSpace c = false := stops c start
  simp [noSpace]

/-- The token at the front of a text is at the front of the normalised text. -/
theorem Token.Reads.normalised {cs after : List Char} {token : Token}
    (reads : Reads options cs token after) :
    Reads options (normalised options none cs) token (normalised options none after) := by
  cases reads with
  | number digit parts stops =>
    rw [← List.cons_append, normalised_plain_append (isPlain_of_number digit parts)]
    exact .number digit parts (stops_normalised rfl stops)
  | blank space parts stops =>
    have single : ∀ d ∈ ([] : List Char), isSpace d = true := by
      intro d member
      cases member
    rw [normalised_blank space parts stops]
    exact .blank rfl single (noSpace_normalised stops)
  | mark punctuation =>
    rw [normalised_plain (isPlain_of_isPunctuation punctuation)]
    exact .mark punctuation
  | identifier start parts stops =>
    rw [← List.cons_append, normalised_plain_append (isPlain_of_identifier start parts)]
    exact .identifier start parts (stops_normalised rfl stops)
  | @quoted delimiter text _ quote stops =>
    rw [normalised_encode quote]
    have apart : (' ' == delimiter) = false := by
      simp only [isQuote, Bool.or_eq_true, decide_eq_true_eq] at quote
      rcases quote with rfl | rfl <;> rfl
    have differs : ∀ d ∈ after.head?, (d == delimiter) = false := by
      intro d first
      simpa using fun same : d = delimiter => stops (same ▸ first)
    refine .quoted quote fun first => ?_
    have noQuote := @stops_normalised options (· == delimiter) after apart differs delimiter first
    simp at noQuote
  | dollar enabled =>
    rw [normalised_opening rfl (opensRegion_dollar enabled), TransactionKit.normalised, if_pos rfl]
    exact .dollar enabled
  | parameter enabled nonempty closed between =>
    rw [normalised_opening rfl (opensRegion_dollar enabled), normalised_closing closed]
    exact .parameter enabled nonempty closed between
  | other lenient digit space punctuation start region =>
    rw [normalised_plain (by simp [isPlain, space, region])]
    exact .other lenient digit space punctuation start region

/-- Normalised text has the tokens of the text. -/
theorem Token.Scanned.normalised {cs : List Char} {lexemes : List Lexeme}
    (scanned : Scanned options cs lexemes) :
    Scanned options (normalised options none cs) lexemes := by
  induction scanned with
  | nil => exact .nil
  | cons reads scanned ih => exact .cons reads.normalised ih

end Normalised

/-! ## Trees without positions -/

/-- A token with its position forgotten. -/
def Lexeme.unplaced (lexeme : Lexeme) : Lexeme :=
  { lexeme with position := 0 }

@[simp] theorem Lexeme.token_unplaced (lexeme : Lexeme) : lexeme.unplaced.token = lexeme.token :=
  rfl

/-- An open frame with its position forgotten. -/
def Frame.unplaced (frame : Frame) : Frame :=
  { frame with position := 0 }

namespace Assembly

/-- A tree under construction with the positions of its open frames forgotten. -/
def unplaced (asm : Assembly) : Assembly :=
  { asm with frames := asm.frames.map Frame.unplaced }

theorem unplaced_push (asm : Assembly) (node : Node) :
    (asm.push node).unplaced = asm.unplaced.push node :=
  rfl

theorem unplaced_pushText (asm : Assembly) (text : String) :
    (asm.pushText text).unplaced = asm.unplaced.pushText text :=
  rfl

theorem unplaced_pushSpace (asm : Assembly) : asm.pushSpace.unplaced = asm.unplaced.pushSpace :=
  rfl

theorem unplaced_openParen (asm : Assembly) (position : Nat) :
    (asm.openParen position).unplaced = asm.unplaced.openParen 0 := by
  obtain ⟨nodes, frames⟩ := asm
  cases frames with
  | nil => exact unplaced_pushText _ "("
  | cons frame frames => rfl

theorem unplaced_comma (asm : Assembly) : asm.comma.unplaced = asm.unplaced.comma := by
  obtain ⟨nodes, frames⟩ := asm
  cases frames with
  | nil => exact unplaced_pushText _ ","
  | cons frame frames =>
    obtain ⟨opening, position, args, before⟩ := frame
    cases opening with
    | call name => rfl
    | group => exact unplaced_pushText _ ","

theorem unplaced_closeParen (rule : CallRule) (asm : Assembly) :
    (asm.closeParen rule).unplaced = asm.unplaced.closeParen rule := by
  obtain ⟨nodes, frames⟩ := asm
  cases frames with
  | nil => exact unplaced_pushText _ ")"
  | cons frame frames =>
    obtain ⟨opening, position, args, before⟩ := frame
    cases opening <;> rfl

theorem unplaced_add (rule : CallRule) (asm : Assembly) (lexeme : Lexeme) :
    (asm.add rule lexeme).unplaced = asm.unplaced.add rule lexeme.unplaced := by
  obtain ⟨token, position⟩ := lexeme
  cases token with
  | mark c =>
    simp only [add, Lexeme.unplaced]
    split
    · exact unplaced_openParen asm position
    split
    · exact unplaced_comma asm
    split
    · exact unplaced_closeParen rule asm
    · exact unplaced_pushText asm c.toString
  | number text => exact unplaced_push asm (.number text)
  | blank => exact unplaced_pushSpace asm
  | identifier name => exact unplaced_pushText asm name
  | quoted text delimiter => exact unplaced_push asm (.quoted text delimiter)
  | dollar => exact unplaced_push asm (.literal "$")
  | parameter p => exact unplaced_push asm (.parameter p)
  | other c => exact unplaced_pushText asm c.toString

/-- Positions matter to nothing but the failures. -/
theorem run_unplaced (rule : CallRule) (asm : Assembly) (lexemes : List Lexeme)
    (nodes : List Node) :
    run rule asm.unplaced (lexemes.map Lexeme.unplaced) = .ok nodes ↔
      run rule asm lexemes = .ok nodes := by
  induction asm, lexemes using run_induction rule with
  | done asm =>
    obtain ⟨last, frames⟩ := asm
    cases frames <;> simp [run, unplaced]
  | call asm lexeme next later name identifier paren ih =>
    rw [run_call identifier paren, ← ih, List.map_cons, List.map_cons,
      run_call (lexeme.token_unplaced.trans identifier) (next.token_unplaced.trans paren)]
    rfl
  | other asm lexeme later noCall ih =>
    rw [unplaced_add] at ih
    rw [run_cons noCall, ← ih, List.map_cons, run_cons]
    intro name identifier next first paren
    rw [List.head?_map] at first
    obtain ⟨placed, front, rfl⟩ := Option.map_eq_some_iff.mp first
    exact noCall name identifier placed front paren

/-- Rows of the same tokens make the same trees. -/
theorem run_of_tokens_eq {rule : CallRule} {first second : List Lexeme} {nodes : List Node}
    (same : second.map Lexeme.token = first.map Lexeme.token)
    (assembled : run rule ⟨[], []⟩ first = .ok nodes) : run rule ⟨[], []⟩ second = .ok nodes := by
  have unplaced : second.map Lexeme.unplaced = first.map Lexeme.unplaced := by
    have placed := congrArg (List.map fun token => Lexeme.mk token 0) same
    rwa [List.map_map, List.map_map] at placed
  have there := (run_unplaced rule ⟨[], []⟩ first nodes).mpr assembled
  rw [← unplaced] at there
  exact (run_unplaced rule ⟨[], []⟩ second nodes).mp there

end Assembly

/-! ## Reading twice -/

namespace TemplateCompiler

/-- The tree of a template can be read from the text that it shows, and nothing is lost or joined on
the way: the second tree is the first. -/
theorem parse_display {compiler : TemplateCompiler} (plain : compiler.callRule? = none)
    {text : String} {tree : Node} (parsed : compiler.parse text = .ok tree) :
    compiler.parse tree.display = .ok tree := by
  obtain ⟨lexemes, nodes, scan, assembled, rfl⟩ := parse_eq_ok_iff.mp parsed
  have scanned := scanned_of_scan scan
  have shown : (Node.sequence nodes).display.toList =
      normalised compiler.options none text.toList := by
    rw [plain, Option.getD_none] at assembled
    have pieces := Assembly.pieces_of_run assembled scanned.apart
    rw [Node.display, String.toList_ofList, Node.source_eq_flatMap, Node.pieces, pieces,
      scanned.normalised_eq]
    rfl
  obtain ⟨found, rescan, same⟩ := scan_of_scanned scanned.normalised 0
  refine parse_eq_ok_iff.mpr ⟨found, nodes, ?_, Assembly.run_of_tokens_eq same assembled, rfl⟩
  rw [shown]
  exact rescan

theorem lenient_parse_display : lenient.callRule? = none ∧ ∃ tree,
    lenient.parse "f(1.\t(a, ''' '),$$$n, text$)\n \"\"x()" = .ok tree ∧
      tree.display = "f(1. (a, ''' '),$$$n, text$) \"\"x()" ∧
      lenient.parse "f(1. (a, ''' '),$$$n, text$) \"\"x()" = .ok tree := by
  let tree : Node := .sequence [
    .call "f" [
      .sequence [.number "1.", .word " ", .group [.word "a, ", .quoted "' " '\'']],
      .sequence [.literal "$", .parameter ⟨["n", " text"], some .text⟩]],
    .word " ", .quoted "" '"', .call "x" []]
  have parsed : lenient.parse "f(1.\t(a, ''' '),$$$n, text$)\n \"\"x()" = .ok tree := by
    decide +kernel
  have shown : tree.display = "f(1. (a, ''' '),$$$n, text$) \"\"x()" := by decide +kernel
  have again := parse_display rfl parsed
  rw [shown] at again
  exact ⟨rfl, tree, parsed, shown, again⟩

end TemplateCompiler

end TransactionKit
