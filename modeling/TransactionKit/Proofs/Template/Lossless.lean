import TransactionKit.Proofs.Template.Pieces

/-!
Reading a template loses nothing but the shape of its blanks. `normalised` is a template with each
run of blanks outside literals and parameters replaced by one space, defined on its characters
alone, and `compile_lossless` says that the tree of a template shows exactly that text. A template
without parameters is rendered to the same text with the doubled dollar signs outside its quoted
literals single; those inside stay doubled, as `quoted_dollars_stay_doubled` shows.
-/

namespace TransactionKit

open Token

/-- A template with every run of blanks outside quoted literals and parameters replaced by one
space. The region is the character that closes the literal or parameter the text starts in. Of a
run only the last blank is written. -/
def normalised (options : TemplateOptions) : (region : Option Char) → List Char → List Char
  | _, [] => []
  | some closing, c :: cs =>
    c :: normalised options (if c = closing then none else some closing) cs
  | none, c :: cs =>
    if isSpace c then
      if cs.head?.any isSpace then normalised options none cs
      else ' ' :: normalised options none cs
    else c :: normalised options (if opensRegion options c then some c else none) cs

/-- A text with every doubled dollar sign outside quoted literals replaced by one. The region is
the character that closes the literal the text starts in. -/
def undoubled : (region : Option Char) → List Char → List Char
  | _, [] => []
  | some closing, c :: cs => c :: undoubled (if c = closing then none else some closing) cs
  | none, '$' :: '$' :: cs => '$' :: undoubled none cs
  | none, c :: cs => c :: undoubled (if isQuote c then some c else none) cs

/-! ## Normalised text -/

section Normalised

variable {options : TemplateOptions}

theorem normalised_plain {c : Char} (plain : isPlain options c = true) (cs : List Char) :
    normalised options none (c :: cs) = c :: normalised options none cs := by
  simp only [isPlain, Bool.and_eq_true, Bool.not_eq_true'] at plain
  obtain ⟨space, region⟩ := plain
  simp [normalised, space, region]

theorem normalised_plain_append {run : List Char} (plain : ∀ c ∈ run, isPlain options c = true)
    (cs : List Char) : normalised options none (run ++ cs) = run ++ normalised options none cs := by
  induction run with
  | nil => rfl
  | cons c run ih =>
    rw [List.cons_append, normalised_plain (plain c List.mem_cons_self),
      ih fun d member => plain d (List.mem_cons_of_mem c member), List.cons_append]

/-- A whole run of blanks is one space. -/
theorem normalised_blank {c : Char} {run after : List Char} (space : isSpace c = true)
    (parts : ∀ d ∈ run, isSpace d = true) (stops : ∀ d ∈ after.head?, isSpace d = false) :
    normalised options none (c :: (run ++ after)) = ' ' :: normalised options none after := by
  induction run generalizing c with
  | nil =>
    have last : after.head?.any isSpace = false := by
      cases after with
      | nil => rfl
      | cons d after => exact stops d rfl
    simp [normalised, space, last]
  | cons d run ih =>
    have more : isSpace d = true := parts d List.mem_cons_self
    rw [List.cons_append, normalised, if_pos space]
    simp only [List.head?_cons, Option.any_some, more, if_true]
    exact ih more fun e member => parts e (List.mem_cons_of_mem d member)

/-- Nothing changes up to the end of a region. -/
theorem normalised_closing {closing : Char} {inside : List Char} (closed : closing ∉ inside)
    (after : List Char) :
    normalised options (some closing) (inside ++ closing :: after) =
      inside ++ closing :: normalised options none after := by
  induction inside with
  | nil => simp [normalised]
  | cons c inside ih =>
    have differ : c ≠ closing := fun same => closed (same ▸ List.mem_cons_self)
    rw [List.cons_append, normalised, if_neg differ,
      ih fun member => closed (List.mem_cons_of_mem c member), List.cons_append]

theorem opensRegion_of_isQuote {c : Char} (quote : isQuote c = true) :
    isSpace c = false ∧ opensRegion options c = true := by
  simp only [isQuote, Bool.or_eq_true, decide_eq_true_eq] at quote
  rcases quote with rfl | rfl <;> exact ⟨rfl, rfl⟩

theorem normalised_opening {c : Char} (space : isSpace c = false)
    (opens : opensRegion options c = true) (cs : List Char) :
    normalised options none (c :: cs) = c :: normalised options (some c) cs := by
  simp [normalised, space, opens]

/-- A quoted literal stays as it is. -/
theorem normalised_encode {delimiter : Char} (quote : isQuote delimiter = true)
    (text after : List Char) :
    normalised options none (Text.Quoting.encode ⟨delimiter, false⟩ text ++ after) =
      Text.Quoting.encode ⟨delimiter, false⟩ text ++ normalised options none after := by
  obtain ⟨space, opens⟩ : isSpace delimiter = false ∧ opensRegion options delimiter = true :=
    opensRegion_of_isQuote quote
  have copied := @Text.Quoting.write_encode (normalised options) (fun c => [c])
    ⟨delimiter, false⟩ (normalised_opening space opens) (fun _ _ => rfl) text after
  rwa [List.flatMap_singleton'] at copied

/-- Each token stands for its own text, and a run of blanks for a space. -/
theorem Token.Reads.normalised_eq {cs after : List Char} {token : Token}
    (reads : Reads options cs token after) :
    normalised options none cs =
      token.pieces.flatMap Piece.source ++ normalised options none after := by
  cases reads with
  | number digit parts stops =>
    have plain := @isPlain_of_number options _ _ digit parts
    rw [Token.pieces, Piece.flatMap_source_ofText, ← List.cons_append,
      normalised_plain_append plain, String.toList_ofList]
  | blank space parts stops => exact normalised_blank space parts stops
  | mark punctuation => exact normalised_plain (isPlain_of_isPunctuation punctuation) after
  | identifier start parts stops =>
    have plain := @isPlain_of_identifier options _ _ start parts
    rw [Token.pieces, Piece.flatMap_source_ofText, ← List.cons_append,
      normalised_plain_append plain, String.toList_ofList]
  | quoted quote stops =>
    rw [normalised_encode quote]
    simp [Token.pieces, Piece.source]
  | dollar enabled =>
    rw [normalised_opening rfl (opensRegion_dollar enabled), normalised, if_pos rfl]
    rfl
  | @parameter position inside after p enabled nonempty closed between =>
    rw [normalised_opening rfl (opensRegion_dollar enabled), normalised_closing closed]
    simp [Token.pieces, Piece.source, source_of_parameterBetween between]
  | other lenient digit space punctuation start region =>
    exact normalised_plain (by simp [isPlain, space, region]) after

theorem Token.Scanned.normalised_eq {cs : List Char} {lexemes : List Lexeme}
    (scanned : Scanned options cs lexemes) :
    normalised options none cs = (lexemes.flatMap (·.token.pieces)).flatMap Piece.source := by
  induction scanned with
  | nil => rfl
  | cons reads scanned ih => rw [reads.normalised_eq, ih, List.flatMap_cons, List.flatMap_append]

end Normalised

/-! ## Rendering without parameters -/

/-- The text that a piece other than a parameter gives in every statement. -/
def Piece.written : Piece → List Char
  | char c => [c]
  | dollar => ['$']
  | quoted text delimiter => Text.Quoting.encode ⟨delimiter, false⟩ text.toList
  | parameter _ => []

theorem Piece.renderAll_eq_written (context : RenderContext) {pieces : List Piece}
    (fixed : pieces.filterMap parameter? = []) :
    renderAll context pieces = pure (String.ofList (pieces.flatMap written)) := by
  induction pieces with
  | nil => rfl
  | cons piece pieces ih =>
    rw [List.filterMap_cons] at fixed
    cases piece with
    | parameter p => cases fixed
    | char c => simp [renderAll, render, ih fixed, written]
    | dollar => simp [renderAll, render, ih fixed, written]
    | quoted text delimiter => simp [renderAll, render, ih fixed, written]

theorem undoubled_plain {c : Char} (quote : isQuote c = false) (dollar : c ≠ '$') (cs : List Char) :
    undoubled none (c :: cs) = c :: undoubled none cs := by
  rw [undoubled, quote]
  · rfl
  · intro _ same
    exact absurd same dollar

theorem undoubled_encode {delimiter : Char} (quote : isQuote delimiter = true)
    (text after : List Char) :
    undoubled none (Text.Quoting.encode ⟨delimiter, false⟩ text ++ after) =
      Text.Quoting.encode ⟨delimiter, false⟩ text ++ undoubled none after := by
  have opening (cs : List Char) :
      undoubled none (delimiter :: cs) = [delimiter] ++ undoubled (some delimiter) cs := by
    rw [undoubled, if_pos quote]
    · rfl
    · rintro _ rfl
      cases quote
  have copied := @Text.Quoting.write_encode undoubled (fun c => [c])
    ⟨delimiter, false⟩ opening (fun _ _ => rfl) text after
  rwa [List.flatMap_singleton'] at copied

/-- Where dollar signs enclose parameters, the text of a template without them has its dollar signs
outside quoted literals in pairs. -/
theorem undoubled_source {options : TemplateOptions} (enabled : options.parameters = true)
    {pieces : List Piece} (fixed : pieces.filterMap Piece.parameter? = [])
    (proper : ∀ piece ∈ pieces, piece = .char ' ' ∨ piece.Proper options) :
    undoubled none (pieces.flatMap Piece.source) = pieces.flatMap Piece.written := by
  induction pieces with
  | nil => rfl
  | cons piece pieces ih =>
    rw [List.filterMap_cons] at fixed
    have first := proper piece List.mem_cons_self
    have rest := fun later member => proper later (List.mem_cons_of_mem piece member)
    rw [List.flatMap_cons, List.flatMap_cons]
    cases piece with
    | parameter p => cases fixed
    | char c =>
      have noDollar : c ≠ '$' := by
        rcases first with space | plain
        · cases space
          decide
        · exact ne_dollar_of_isPlain enabled plain
      rw [Piece.source, Piece.written, List.singleton_append, List.singleton_append,
        undoubled_plain (Piece.isQuote_of_char first) noDollar, ih fixed rest]
    | dollar =>
      rw [Piece.source, Piece.written, List.singleton_append, ← ih fixed rest]
      rfl
    | quoted text delimiter =>
      rw [Piece.source, Piece.written, undoubled_encode (Piece.isQuote_of_quoted first),
        ih fixed rest]

/-- Where dollar signs mean nothing, the text of a template is what it renders to. -/
theorem written_eq_source {options : TemplateOptions} (disabled : options.parameters = false)
    {pieces : List Piece} (proper : ∀ piece ∈ pieces, piece = .char ' ' ∨ piece.Proper options) :
    pieces.flatMap Piece.written = pieces.flatMap Piece.source := by
  apply List.flatMap_congr
  intro piece member
  rcases proper piece member with rfl | proper
  · rfl
  · cases piece with
    | char c => rfl
    | quoted text delimiter => rfl
    | dollar => cases disabled.symm.trans proper
    | parameter p => cases disabled.symm.trans proper

/-- The text of a template without parameters in a statement, from the normalised text of the
template. -/
def unparametrised (options : TemplateOptions) (text : List Char) : List Char :=
  if options.parameters then undoubled none text else text

/-- The tree of a template shows the normalised text of the template. If it has no parameters, the
template compiles, and every rendering of it gives that text with the doubled dollar signs outside
quoted literals single, where dollar signs enclose parameters at all. -/
theorem TemplateCompiler.compile_lossless {compiler : TemplateCompiler}
    (plain : compiler.callRule? = none) {text : String} {tree : Node}
    (parsed : compiler.parse text = .ok tree) :
    tree.display = String.ofList (normalised compiler.options none text.toList) ∧
      (tree.parameters = [] → ∃ template, compiler.compile text = .ok template ∧
        ∀ values sink, template.render values sink =
          (.ok (String.ofList (unparametrised compiler.options
            (normalised compiler.options none text.toList))), sink)) := by
  obtain ⟨lexemes, scanned, same⟩ := compiler.pieces_of_parse plain parsed
  have source : tree.source = normalised compiler.options none text.toList := by
    rw [Node.source_eq_flatMap, same, scanned.normalised_eq]
  constructor
  · rw [Node.display, source]
  · intro fixed
    rw [Node.parameters_eq_filterMap] at fixed
    refine ⟨⟨text, tree, compiler.renderer⟩, compile_eq_ok_iff.mpr ⟨tree, parsed, rfl⟩, ?_⟩
    · intro values sink
      have written : tree.pieces.flatMap Piece.written =
          unparametrised compiler.options (normalised compiler.options none text.toList) := by
        have proper := scanned.proper
        rw [← same] at proper
        rw [← source, Node.source_eq_flatMap]
        unfold unparametrised
        split
        · rename_i enabled
          exact (undoubled_source enabled fixed proper).symm
        · rename_i disabled
          exact written_eq_source (by simpa using disabled) proper
      rw [Template.render, Node.render_eq_renderAll, Piece.renderAll_eq_written _ fixed, written]
      rfl

theorem lenient_compile_lossless :
    TemplateCompiler.lenient.callRule? = none ∧ ∃ tree template,
      TemplateCompiler.lenient.parse "f( \ta,'x  $$')\n$$ " = .ok tree ∧ tree.parameters = [] ∧
        tree.display = "f( a,'x  $$') $$ " ∧
        TemplateCompiler.lenient.compile "f( \ta,'x  $$')\n$$ " = .ok template ∧
        ∀ values sink, template.render values sink = (.ok "f( a,'x  $$') $ ", sink) := by
  have parsed : TemplateCompiler.lenient.parse "f( \ta,'x  $$')\n$$ " =
      .ok (.sequence [.call "f" [.sequence [.word " a"], .sequence [.quoted "x  $$" '\'']],
        .word " ", .literal "$", .word " "]) := by decide +kernel
  obtain ⟨shown, rendered⟩ := TemplateCompiler.compile_lossless rfl parsed
  obtain ⟨template, compiled, render⟩ := rendered (by decide)
  refine ⟨rfl, _, template, parsed, by decide, ?_, compiled, ?_⟩
  · rw [shown]
    decide +kernel
  · intro values sink
    have text : String.ofList (unparametrised TemplateCompiler.lenient.options
        (normalised TemplateCompiler.lenient.options none "f( \ta,'x  $$')\n$$ ".toList)) =
          "f( a,'x  $$') $ " := by
      decide +kernel
    rw [render, text]

/-- A text with every doubled dollar sign replaced by one, wherever it stands. -/
def singleDollars : List Char → List Char
  | [] => []
  | '$' :: '$' :: cs => '$' :: singleDollars cs
  | c :: cs => c :: singleDollars cs

/-- A doubled dollar sign inside a quoted literal is no escape: it is part of the literal. -/
theorem quoted_dollars_stay_doubled : ∃ template,
    TemplateCompiler.lenient.compile "'$$'" = .ok template ∧ template.root.parameters = [] ∧
      (template.render (fun _ => none) none).1 = .ok "'$$'" ∧
      singleDollars (normalised {} none "'$$'".toList) = "'$'".toList := by
  have parsed : TemplateCompiler.lenient.parse "'$$'" = .ok (.sequence [.quoted "$$" '\'']) := by
    decide +kernel
  refine ⟨_, TemplateCompiler.compile_eq_ok_iff.mpr ⟨_, parsed, rfl⟩, rfl, ?_, ?_⟩
  · decide +kernel
  · decide +kernel

end TransactionKit
