import TransactionKit.Proofs.Template.Brackets
import TransactionKit.Proofs.Template.Descent

/-!
Which templates can be read, and what is to blame for the others. Reading by descent comes to the
same as the moves on a stack of open frames (`Assembly.readFrom_row`), and the open frames are the
brackets that the scan of the tokens has open (`Assembly.brackets_add`). So the reader succeeds
exactly where the scan does and fails with what the scan meets first:
`TemplateCompiler.parse_outcome`. What a rule puts in the place of calls makes no difference.
-/

namespace TransactionKit

open Token

/-- The bracket that an open frame stands for. -/
def Frame.bracket (frame : Frame) : Bracket :=
  match frame.opening with
  | .call _ => .call frame.position
  | .group => .group frame.position

namespace Assembly

/-! ## Brackets of a tree under construction -/

/-- The open brackets of a tree under construction, the innermost first. -/
def brackets (asm : Assembly) : List Bracket :=
  asm.frames.map Frame.bracket

theorem brackets_push (asm : Assembly) (node : Node) : (asm.push node).brackets = asm.brackets :=
  rfl

theorem brackets_pushText (asm : Assembly) (text : String) :
    (asm.pushText text).brackets = asm.brackets :=
  rfl

theorem brackets_pushSpace (asm : Assembly) : asm.pushSpace.brackets = asm.brackets :=
  rfl

theorem brackets_comma (asm : Assembly) : asm.comma.brackets = asm.brackets := by
  unfold comma
  split
  · rename_i open'
    simp [brackets, open', Frame.bracket]
  · exact brackets_pushText asm ","

theorem brackets_openParen (asm : Assembly) (position : Nat) :
    (asm.openParen position).brackets = Bracket.shift position '(' asm.brackets := by
  obtain ⟨nodes, frames⟩ := asm
  cases frames with
  | nil => exact brackets_pushText _ "("
  | cons frame frames => rfl

theorem brackets_closeParen (rule : CallRule) (asm : Assembly) (position : Nat) :
    (asm.closeParen rule).brackets = Bracket.shift position ')' asm.brackets := by
  obtain ⟨nodes, frames⟩ := asm
  cases frames with
  | nil => exact brackets_pushText _ ")"
  | cons frame frames =>
    obtain ⟨opening, position, args, before⟩ := frame
    cases opening <;> rfl

/-- A token that opens no call does to the frames what a scan does to its brackets. -/
theorem brackets_add (rule : CallRule) (asm : Assembly) (lexeme : Lexeme) :
    (asm.add rule lexeme).brackets =
      Bracket.afterToken lexeme.position asm.brackets lexeme.token := by
  unfold add Bracket.afterToken
  cases lexeme.token with
  | mark c =>
    dsimp only
    split
    · rename_i same
      rw [same, brackets_openParen]
    split
    · rename_i same
      rw [same, brackets_comma, Bracket.shift_of_ne (by decide) (by decide)]
    split
    · rename_i same
      rw [same, brackets_closeParen]
    · rename_i opening comma closing
      rw [brackets_pushText, Bracket.shift_of_ne opening closing]
  | number text => exact brackets_push asm (.number text)
  | blank => exact brackets_pushSpace asm
  | identifier name => exact brackets_pushText asm name
  | quoted text delimiter => exact brackets_push asm (.quoted text delimiter)
  | dollar => exact brackets_push asm (.literal "$")
  | parameter p => exact brackets_push asm (.parameter p)
  | other c => exact brackets_pushText asm c.toString

/-! ## Outcomes -/

/-- Read the rest of a template into a tree, and keep only whether and how that fails. -/
def outcome (options : TemplateOptions) (rule : CallRule) (asm : Assembly) (position : Nat)
    (cs : List Char) : Except Error Unit :=
  (readFrom options rule asm position cs).map fun _ => ()

theorem outcome_nil (options : TemplateOptions) (rule : CallRule) (asm : Assembly)
    (position : Nat) : outcome options rule asm position [] = Bracket.atEnd asm.brackets := by
  obtain ⟨nodes, frames⟩ := asm
  rw [outcome, readFrom_nil]
  cases frames with
  | nil => rfl
  | cons frame frames =>
    obtain ⟨opening, start, args, before⟩ := frame
    cases opening <;> rfl

/-- Reading the rest of a template into a tree comes to the verdict of a scan that starts with the
open frames for brackets. The induction is on the length of the text, since a call takes two tokens
at once. -/
theorem outcome_eq_verdict (options : TemplateOptions) (rule : CallRule) (asm : Assembly)
    (position : Nat) (cs : List Char) :
    outcome options rule asm position cs = Bracket.verdict options position asm.brackets cs := by
  induction size : cs.length using Nat.strongRecOn generalizing asm position cs with
  | ind size hypothesis =>
    subst size
    cases cs with
    | nil => rw [Bracket.verdict_nil, outcome_nil]
    | cons c rest =>
      rw [Bracket.verdict_cons]
      cases read : Token.next options position c rest with
      | error e =>
        rw [outcome, readFrom_of_error read]
        rfl
      | ok result =>
        obtain ⟨token, after⟩ := result
        have shorter := length_le_of_next read
        by_cases call : ∃ name tail, token = .identifier name ∧ after = '(' :: tail
        · obtain ⟨name, tail, rfl, rfl⟩ := call
          have smaller : tail.length < (c :: rest).length := by
            rw [List.length_cons] at shorter ⊢
            omega
          have moved := hypothesis _ smaller (asm.enter (.call name) position)
            (position + 1 + (rest.length - tail.length)) tail rfl
          rw [outcome, readFrom_of_call read]
          exact moved
        · have noCall : ∀ name, token = .identifier name → after.head? ≠ some '(' := by
            intro name identifier first
            cases after with
            | nil => cases first
            | cons d tail =>
              cases first
              exact call ⟨name, tail, identifier, rfl⟩
          have smaller : after.length < (c :: rest).length := Nat.lt_succ_of_le shorter
          have moved := hypothesis _ smaller (asm.add rule ⟨token, position⟩)
            (position + 1 + (rest.length - after.length)) after rfl
          rw [brackets_add] at moved
          rw [outcome, readFrom_of_next read noCall]
          exact moved.trans (Bracket.goOn_of_noCall noCall).symm

end Assembly

namespace TemplateCompiler

theorem map_parse (compiler : TemplateCompiler) (text : String) :
    (compiler.parse text).map (fun _ => ()) =
      Assembly.outcome compiler.options (compiler.callRule?.getD .plain) ⟨[], []⟩ 0
        text.toList := by
  rw [parse, Node.parse_eq, Assembly.outcome, Assembly.readFrom, Token.scan]
  cases scanFrom compiler.options 0 text.toList with
  | error e => rfl
  | ok lexemes =>
    simp only [Except.bind, Node.ofLexemes]
    cases Assembly.run (compiler.callRule?.getD .plain) ⟨[], []⟩ lexemes <;> rfl

/-- A template can be read exactly if the scan of its text, with no bracket open at first, comes to a
good end, and otherwise reading it fails with what the scan meets first. -/
theorem parse_outcome (compiler : TemplateCompiler) (text : String) :
    ((∃ tree, compiler.parse text = .ok tree) ↔
        Bracket.verdict compiler.options 0 [] text.toList = .ok ()) ∧
      ∀ e, compiler.parse text = .error e ↔
        Bracket.verdict compiler.options 0 [] text.toList = .error e := by
  have same : (compiler.parse text).map (fun _ => ()) =
      Bracket.verdict compiler.options 0 [] text.toList := by
    rw [map_parse, Assembly.outcome_eq_verdict]
    rfl
  rw [← same]
  cases compiler.parse text with
  | error e => simp [Except.map]
  | ok tree => simp [Except.map]

end TemplateCompiler

end TransactionKit
