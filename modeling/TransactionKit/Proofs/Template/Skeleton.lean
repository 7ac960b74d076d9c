import TransactionKit.Proofs.Template.Pieces

/-!
Text values stay inside their quotes. The skeleton of a statement is what is left of it without its
quoted regions. A template puts no parameter inside a literal and the standard renderer encloses
every text, so the skeleton does not depend on the texts: two renderings with values of the same
shape have the same skeleton, `render_skeleton_eq`.
-/

namespace TransactionKit

open Token

/-- The characters of a statement outside its quoted regions. A quote character outside opens a
region that the next one of its kind closes. The region is the quote character of the region that
the statement starts in. -/
def skeleton : (region : Option Char) → List Char → List Char
  | _, [] => []
  | some closing, c :: cs => skeleton (if c = closing then none else some closing) cs
  | none, c :: cs => if isQuote c then skeleton (some c) cs else c :: skeleton none cs

namespace Value

mutual

/-- Two values that are both null, both texts, or both collections with elements of the same
shapes. -/
inductive SameShape : Value → Value → Prop where
  | null : SameShape .null .null
  | text (s t : String) : SameShape (.text s) (.text t)
  | array {xs ys : List Value} (items : SameShapes xs ys) : SameShape (.array xs) (.array ys)

/-- Lists of values of the same shapes. -/
inductive SameShapes : List Value → List Value → Prop where
  | nil : SameShapes [] []
  | cons {x y : Value} {xs ys : List Value} (head : SameShape x y) (tail : SameShapes xs ys) :
      SameShapes (x :: xs) (y :: ys)

end

end Value

/-! ## Skeletons of parts of a statement -/

/-- A text adds certain characters to the skeleton of a statement that it stands in outside quoted
regions, and leaves what follows it outside. -/
def HasSkeleton (text : String) (bare : List Char) : Prop :=
  ∀ cs, skeleton none (text.toList ++ cs) = bare ++ skeleton none cs

theorem HasSkeleton.append {s t : String} {first second : List Char}
    (left : HasSkeleton s first) (right : HasSkeleton t second) :
    HasSkeleton (s ++ t) (first ++ second) := by
  intro cs
  rw [String.toList_append, List.append_assoc, left, right, List.append_assoc]

/-- A text without quote characters stays as it is. -/
theorem hasSkeleton_of_quoteless {text : String}
    (quoteless : ∀ c ∈ text.toList, isQuote c = false) : HasSkeleton text text.toList := by
  intro cs
  generalize text.toList = characters at quoteless ⊢
  induction characters with
  | nil => rfl
  | cons c rest ih =>
    have first := quoteless c List.mem_cons_self
    rw [List.cons_append, skeleton, first]
    exact congrArg (c :: ·) (ih fun d member => quoteless d (List.mem_cons_of_mem c member))

/-- A literal leaves nothing, whatever its text. -/
theorem hasSkeleton_encode {q : Text.Quoting} (quote : isQuote q.quote = true)
    (text : List Char) : HasSkeleton (String.ofList (q.encode text)) [] := by
  intro cs
  have opening (rest : List Char) :
      skeleton none (q.quote :: rest) = [] ++ skeleton (some q.quote) rest := by
    rw [skeleton, if_pos quote]
    rfl
  have nothing : (q.encode text).flatMap (fun _ => []) = ([] : List Char) :=
    List.flatMap_eq_nil_iff.mpr fun _ _ => rfl
  have dropped := @Text.Quoting.write_encode skeleton (fun _ => []) q opening (fun _ _ => rfl)
    text cs
  rwa [nothing, ← String.toList_ofList (l := q.encode text)] at dropped

/-- Two renderings that succeed, leave the sink alone and give texts of one skeleton. -/
def SameSkeleton (first second : Rendering String) : Prop :=
  ∃ s t bare, first = pure s ∧ second = pure t ∧ HasSkeleton s bare ∧ HasSkeleton t bare

namespace SameSkeleton

theorem same {text : String} {bare : List Char} (has : HasSkeleton text bare) :
    SameSkeleton (pure text) (pure text) :=
  ⟨text, text, bare, rfl, rfl, has, has⟩

theorem append {a b c d : Rendering String} (first : SameSkeleton a b)
    (second : SameSkeleton c d) :
    SameSkeleton (do let head ← a; return head ++ (← c))
      (do let head ← b; return head ++ (← d)) := by
  obtain ⟨s, t, bare, rfl, rfl, left, right⟩ := first
  obtain ⟨s', t', bare', rfl, rfl, left', right'⟩ := second
  refine ⟨s ++ s', t ++ t', bare ++ bare', ?_, ?_, left.append left', right.append right'⟩
  · simp only [pure_bind]
  · simp only [pure_bind]

end SameSkeleton

section Rendering

variable {config : RendererConfig} {p : Parameter}

theorem sameSkeleton_text (quote : isQuote config.quote = true)
    (kind : p.kind? = none ∨ p.kind? = some .text) (s t : String) :
    SameSkeleton (Rendering.value (.standard config) p (.text s))
      (Rendering.value (.standard config) p (.text t)) := by
  have literal (u : String) : Rendering.value (.standard config) p (.text u) =
      pure (config.textLiteral u) := by
    have chosen : p.kind?.getD .text = .text := by
      rcases kind with none | text
      · rw [none]
        rfl
      · rw [text]
        rfl
    simp only [Rendering.value, Value.defaultKind?, Option.getD_some, chosen]
    rfl
  refine ⟨config.textLiteral s, config.textLiteral t, [], literal s, literal t, ?_, ?_⟩
  · exact hasSkeleton_encode quote s.toList
  · exact hasSkeleton_encode quote t.toList

mutual

theorem sameSkeleton_value (quote : isQuote config.quote = true)
    (kind : p.kind? = none ∨ p.kind? = some .text)
    (separator : ∀ c ∈ p.separator.toList, isQuote c = false) {v w : Value}
    (shape : Value.SameShape v w) :
    SameSkeleton (Rendering.value (.standard config) p v)
      (Rendering.value (.standard config) p w) := by
  cases shape with
  | null =>
    have null : HasSkeleton "null" "null".toList :=
      hasSkeleton_of_quoteless (by simp [isQuote])
    exact .same null
  | text s t => exact sameSkeleton_text quote kind s t
  | array items => exact sameSkeleton_elements quote kind separator items

/-- The texts of the elements and the separators between them line up. -/
theorem sameSkeleton_elements (quote : isQuote config.quote = true)
    (kind : p.kind? = none ∨ p.kind? = some .text)
    (separator : ∀ c ∈ p.separator.toList, isQuote c = false) {vs ws : List Value}
    (shapes : Value.SameShapes vs ws) :
    SameSkeleton (Rendering.elements (.standard config) p vs)
      (Rendering.elements (.standard config) p ws) := by
  cases shapes with
  | nil => exact .same (hasSkeleton_of_quoteless (by simp))
  | cons head tail =>
    have first := sameSkeleton_value quote kind separator head
    have rest := sameSkeleton_elements quote kind separator tail
    cases tail with
    | nil => exact first
    | cons next tail =>
      obtain ⟨s, t, bare, left, right, sHas, tHas⟩ := first
      obtain ⟨s', t', bare', left', right', sHas', tHas'⟩ := rest
      have between := hasSkeleton_of_quoteless separator
      refine ⟨s ++ p.separator ++ s', t ++ p.separator ++ t', bare ++ p.separator.toList ++ bare',
        ?_, ?_, (sHas.append between).append sHas', (tHas.append between).append tHas'⟩
      · rw [Rendering.elements, left, pure_bind, left', pure_bind]
      · rw [Rendering.elements, right, pure_bind, right', pure_bind]

end

/-- Pieces other than parameters give the same text in both renderings, and it has no quote outside
its literals. -/
theorem sameSkeleton_renderAll {options : TemplateOptions}
    {first second : String → Option Value} {pieces : List Piece}
    (proper : ∀ piece ∈ pieces, piece = .char ' ' ∨ piece.Proper options)
    (parameters : ∀ p ∈ pieces.filterMap Piece.parameter?,
      SameSkeleton (Rendering.parameter ⟨.standard config, first⟩ p)
        (Rendering.parameter ⟨.standard config, second⟩ p)) :
    SameSkeleton (Piece.renderAll ⟨.standard config, first⟩ pieces)
      (Piece.renderAll ⟨.standard config, second⟩ pieces) := by
  induction pieces with
  | nil => exact .same (hasSkeleton_of_quoteless (by simp))
  | cons piece pieces ih =>
    have rest := ih (fun later member => proper later (List.mem_cons_of_mem piece member))
      (fun p member => by
        apply parameters p
        rw [List.mem_filterMap] at member ⊢
        obtain ⟨later, member, is⟩ := member
        exact ⟨later, List.mem_cons_of_mem piece member, is⟩)
    refine SameSkeleton.append ?_ rest
    cases piece with
    | parameter p => exact parameters p (List.mem_filterMap.mpr ⟨_, List.mem_cons_self, rfl⟩)
    | char c =>
      refine .same (hasSkeleton_of_quoteless ?_)
      intro d member
      have same : d = c := by simpa using member
      subst same
      exact Piece.isQuote_of_char (proper _ List.mem_cons_self)
    | dollar => exact .same (hasSkeleton_of_quoteless (by simp [isQuote]))
    | quoted text delimiter =>
      have delimits := Piece.isQuote_of_quoted (proper _ List.mem_cons_self)
      exact .same (hasSkeleton_encode delimits text.toList)

end Rendering

/-- The skeleton of a statement does not depend on the texts in it. Let every parameter of a
template be rendered in its own kind or as text, with a separator without quote characters, by the
standard renderer with one of the quote characters. Then renderings with values of the same shapes
succeed, leave the sink alone, and give statements of the same skeleton. A missing value counts as
null. -/
theorem TemplateCompiler.render_skeleton_eq {compiler : TemplateCompiler} {config : RendererConfig}
    (plain : compiler.callRule? = none) (standard : compiler.renderer = .standard config)
    (quote : config.quote = '\'' ∨ config.quote = '"') {text : String} {template : Template}
    (compiled : compiler.compile text = .ok template)
    (kinds : ∀ p ∈ template.root.parameters, p.kind? = none ∨ p.kind? = some .text)
    (separators : ∀ p ∈ template.root.parameters, '\'' ∉ p.separator.toList ∧
      '"' ∉ p.separator.toList)
    {first second : String → Option Value}
    (shapes : ∀ p ∈ template.root.parameters,
      Value.SameShape ((first p.key).getD .null) ((second p.key).getD .null)) (sink : Sink) :
    ∃ s t, template.render first sink = (.ok s, sink) ∧
      template.render second sink = (.ok t, sink) ∧
        skeleton none s.toList = skeleton none t.toList := by
  obtain ⟨tree, parsed, rfl⟩ := compile_eq_ok_iff.mp compiled
  rw [standard]
  obtain ⟨lexemes, scanned, same⟩ := compiler.pieces_of_parse plain parsed
  have proper := scanned.proper
  rw [← same] at proper
  have isQuoteOfConfig : isQuote config.quote = true := by simpa [isQuote] using quote
  have parameters : ∀ p ∈ tree.pieces.filterMap Piece.parameter?,
      SameSkeleton (Rendering.parameter ⟨.standard config, first⟩ p)
        (Rendering.parameter ⟨.standard config, second⟩ p) := by
    intro p member
    rw [← Node.parameters_eq_filterMap] at member
    refine sameSkeleton_value isQuoteOfConfig (kinds p member) ?_ (shapes p member)
    intro c inside
    obtain ⟨noSingle, noDouble⟩ := separators p member
    simp only [isQuote, Bool.or_eq_false_iff, decide_eq_false_iff_not]
    constructor
    · rintro rfl
      exact noSingle inside
    · rintro rfl
      exact noDouble inside
  obtain ⟨s, t, bare, left, right, sHas, tHas⟩ :=
    sameSkeleton_renderAll proper parameters
  refine ⟨s, t, ?_, ?_, ?_⟩
  · rw [Template.render, Node.render_eq_renderAll, left]
    rfl
  · rw [Template.render, Node.render_eq_renderAll, right]
    rfl
  · have sBare := sHas []
    have tBare := tHas []
    rw [List.append_nil] at sBare tBare
    rw [sBare, tBare]

/-- A name that is looked for, and a collection of one identifier and a missing one. -/
def bindings (name id : String) (key : String) : Option Value :=
  some (if key = "n" then .text name else .array [.text id, .null])

theorem injected_text_keeps_skeleton : ∃ template s t,
    TemplateCompiler.lenient.compile "name = $n$ or id in($ids,text, ; $)" = .ok template ∧
      template.render (bindings "x" "1") none = (.ok s, none) ∧
      template.render (bindings "' or 1 = 1" "')") none = (.ok t, none) ∧
      skeleton none s.toList = skeleton none t.toList := by
  have parsed : TemplateCompiler.lenient.parse "name = $n$ or id in($ids,text, ; $)" =
      .ok (.sequence [.word "name = ", .parameter ⟨["n"], none⟩, .word " or id ",
        .call "in" [.sequence [.parameter ⟨["ids", "text", " ; "], some .text⟩]]]) := by
    decide +kernel
  have compiled := TemplateCompiler.compile_eq_ok_iff.mpr ⟨_, parsed, rfl⟩
  have shapes : ∀ p ∈ [Parameter.mk ["n"] none, ⟨["ids", "text", " ; "], some .text⟩],
      Value.SameShape ((bindings "x" "1" p.key).getD .null)
        ((bindings "' or 1 = 1" "')" p.key).getD .null) := by
    rintro p (_ | ⟨_, _ | ⟨_, ⟨⟩⟩⟩)
    · exact .text "x" "' or 1 = 1"
    · exact .array (.cons (.text "1" "')") (.cons .null .nil))
  obtain ⟨s, t, left, right, same⟩ := TemplateCompiler.render_skeleton_eq rfl rfl (.inl rfl)
    compiled (by decide) (by decide +kernel) shapes none
  exact ⟨_, s, t, compiled, left, right, same⟩

end TransactionKit
