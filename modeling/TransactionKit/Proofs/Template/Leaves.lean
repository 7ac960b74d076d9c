import TransactionKit.Proofs.Template.Lossless

/-!
Rendering in document order. The leaves of a statement are the scalar values at its parameters,
collections taken element by element, in the order of the text. If every leaf can be written, the
statement is the text of the tree with the texts of the leaves in it, and the sink has the payloads
of the binary leaves in their order; otherwise the first leaf that cannot be written decides the
failure, and the sink has the payloads before it: `render_in_order`. Two renderings in a row go
through the leaves of the one and then of the other, so the law holds of a tree because it holds of
a leaf.
-/

namespace TransactionKit

namespace Value

mutual

/-- The scalar values in a value, from left to right. -/
def scalars : Value → List Value
  | array items => scalarsAll items
  | scalar => [scalar]

/-- The scalar values in values one after another. -/
def scalarsAll : List Value → List Value
  | [] => []
  | item :: items => item.scalars ++ scalarsAll items

end

mutual

/-- The text of a value, given those of its scalar values: the elements of a collection have the
separator between them. -/
def joined (separator : String) (written : Value → String) : Value → String
  | array items => separator.intercalate (joinedAll separator written items)
  | scalar => written scalar

/-- The texts of values, each with the separator between its elements. -/
def joinedAll (separator : String) (written : Value → String) : List Value → List String
  | [] => []
  | item :: items => item.joined separator written :: joinedAll separator written items

end

end Value

/-- A scalar value with the parameter that it is written for. -/
structure Leaf where
  parameter : Parameter
  value : Value

namespace Leaf

/-- The kind that a leaf is written in: the one its parameter names, or that of its value. -/
def kind (leaf : Leaf) : Kind :=
  leaf.parameter.kind?.getD (leaf.value.defaultKind?.getD .text)

/-- The failure to bind a payload. -/
def unbound (leaf : Leaf) : Error :=
  .unsupportedContext ("parameter " ++ Text.shown leaf.parameter.key ++
    " holds binary content but the render context has no binary sink")

/-- The text of a leaf, or why it has none. A payload needs a sink. -/
def write (renderer : Renderer) (hasSink : Bool) (leaf : Leaf) : Except Error String :=
  match leaf.value with
  | .null => .ok renderer.nullLiteral
  | .bytes _ => if hasSink then .ok renderer.placeholder else .error leaf.unbound
  | scalar => renderer.render scalar leaf.kind

/-- The payload of a binary leaf. -/
def payload? (leaf : Leaf) : Option (List UInt8) :=
  match leaf.value with
  | .bytes payload => some payload
  | _ => none

/-- A leaf fails because its payload has no sink, or because the renderer fails. -/
theorem write_eq_error {renderer : Renderer} {hasSink : Bool} {leaf : Leaf} {e : Error}
    (fails : leaf.write renderer hasSink = .error e) :
    (∃ payload, leaf.value = .bytes payload) ∧ hasSink = false ∧ e = leaf.unbound ∨
      leaf.payload? = none ∧ renderer.render leaf.value leaf.kind = .error e := by
  cases shape : leaf.value with
  | null =>
    rw [write, shape] at fails
    cases fails
  | bytes payload =>
    cases hasSink with
    | true =>
      rw [write, shape] at fails
      cases fails
    | false =>
      rw [write, shape] at fails
      cases fails
      exact .inl ⟨⟨payload, rfl⟩, rfl, rfl⟩
  | _ =>
    rw [write, shape] at fails
    exact .inr ⟨by rw [payload?, shape], fails⟩

/-- Leaves that can be written each have a text. -/
theorem exists_written {renderer : Renderer} {hasSink : Bool} {leaves : List Leaf}
    (can : ∀ leaf ∈ leaves, ∃ s, leaf.write renderer hasSink = .ok s) :
    ∃ written : Leaf → String, ∀ leaf ∈ leaves,
      leaf.write renderer hasSink = .ok (written leaf) := by
  exists fun leaf => (leaf.write renderer hasSink).toOption.getD ""
  intro leaf member
  obtain ⟨s, written⟩ := can leaf member
  dsimp only
  rw [written]
  rfl

end Leaf

/-- The sink with the payloads of leaves bound after those it has. -/
def Sink.after (sink : Sink) (leaves : List Leaf) : Sink :=
  sink.map (· ++ leaves.filterMap Leaf.payload?)

namespace Sink

theorem after_nil (sink : Sink) : sink.after [] = sink := by
  cases sink <;> simp [after]

/-- Only payloads go to the sink. -/
theorem after_of_payload?_eq_none {leaf : Leaf} (plain : leaf.payload? = none) (sink : Sink) :
    sink.after [leaf] = sink := by
  cases sink <;> simp [after, plain]

theorem after_append (sink : Sink) (first second : List Leaf) :
    (sink.after first).after second = sink.after (first ++ second) := by
  cases sink <;> simp [after]

theorem isSome_after (sink : Sink) (leaves : List Leaf) :
    (sink.after leaves).isSome = sink.isSome := by
  cases sink <;> rfl

end Sink

/-! ## Renderings that go through leaves in order -/

/-- A rendering that writes leaves in order. Its text is made of those of the leaves. The first leaf
that cannot be written ends it, when the payloads before that leaf have been bound. -/
structure Traverses (renderer : Renderer) (rendering : Rendering String) (leaves : List Leaf)
    (text : (Leaf → String) → String) : Prop where
  writes : ∀ (sink : Sink) (written : Leaf → String),
    (∀ leaf ∈ leaves, leaf.write renderer sink.isSome = .ok (written leaf)) →
      rendering.run.run sink = (.ok (text written), sink.after leaves)
  fails : ∀ (sink : Sink) (before : List Leaf) (leaf : Leaf) (after : List Leaf) (e : Error),
    leaves = before ++ leaf :: after →
      (∀ earlier ∈ before, ∃ s, earlier.write renderer sink.isSome = .ok s) →
        leaf.write renderer sink.isSome = .error e →
          rendering.run.run sink = (.error e, sink.after before)

namespace Rendering

/-- A rendering goes on after one that gives a text. -/
theorem run_bind_ok {α β : Type} {m : Rendering α} {f : α → Rendering β} {sink sink' : Sink} {a : α}
    (first : m.run.run sink = (.ok a, sink')) : (m >>= f).run.run sink = (f a).run.run sink' := by
  simp only [ExceptT.run, StateT.run] at first ⊢
  simp only [bind, ExceptT.bind, ExceptT.mk, StateT.bind, first]
  rfl

/-- A rendering ends with the first failure. -/
theorem run_bind_error {α β : Type} {m : Rendering α} {f : α → Rendering β} {sink sink' : Sink}
    {e : Error} (first : m.run.run sink = (.error e, sink')) :
    (m >>= f).run.run sink = (.error e, sink') := by
  simp only [ExceptT.run, StateT.run] at first ⊢
  simp only [bind, ExceptT.bind, ExceptT.mk, StateT.bind, first]
  rfl

end Rendering

/-- A leaf of two lists in a row is in the first one or in the second. -/
theorem split_append {first second before after : List Leaf} {leaf : Leaf}
    (split : first ++ second = before ++ leaf :: after) :
    (∃ rest, before = first ++ rest ∧ second = rest ++ leaf :: after) ∨
      ∃ rest, first = before ++ leaf :: rest ∧ after = rest ++ second := by
  rcases List.append_eq_append_iff.mp split with later | ⟨rest, first_eq, rest_eq⟩
  · exact .inl later
  · cases rest with
    | nil => exact .inl ⟨[], by simpa using first_eq.symm, rest_eq.symm⟩
    | cons next rest =>
      cases rest_eq
      exact .inr ⟨rest, first_eq, rfl⟩

namespace Traverses

variable {renderer : Renderer}

/-- A fixed text has no leaves. -/
theorem pure (text : String) : Traverses renderer (pure text) [] fun _ => text where
  writes := by
    intro sink written _
    rw [Sink.after_nil]
    rfl
  fails := by
    intro sink before leaf after e split
    simp at split

/-- One rendering after another goes through the leaves of both. -/
theorem append {a b : Rendering String} {first second : List Leaf}
    {text text' : (Leaf → String) → String} (left : Traverses renderer a first text)
    (right : Traverses renderer b second text') :
    Traverses renderer (do let head ← a; return head ++ (← b)) (first ++ second)
      fun written => text written ++ text' written where
  writes := by
    intro sink written can
    have head := left.writes sink written fun leaf member =>
      can leaf (List.mem_append_left second member)
    have tail := right.writes (sink.after first) written fun leaf member => by
      rw [Sink.isSome_after]
      exact can leaf (List.mem_append_right first member)
    rw [Rendering.run_bind_ok head, Rendering.run_bind_ok tail, Sink.after_append]
    rfl
  fails := by
    intro sink before leaf after e split can cannot
    rcases split_append split with ⟨rest, same, later⟩ | ⟨rest, sooner, -⟩
    · -- the first rendering gives a text, and the second one fails
      subst same
      obtain ⟨written, all⟩ := Leaf.exists_written fun earlier member =>
        can earlier (List.mem_append_left rest member)
      have head := left.writes sink written all
      have tail := right.fails (sink.after first) rest leaf after e later
        (fun earlier member => by
          rw [Sink.isSome_after]
          exact can earlier (List.mem_append_right first member))
        (by rwa [Sink.isSome_after])
      rw [Rendering.run_bind_ok head, Rendering.run_bind_error tail, Sink.after_append]
    · exact Rendering.run_bind_error (left.fails sink before leaf rest e sooner can cannot)

/-- A rendering that does what a leaf asks for goes through that leaf. -/
theorem leaf (leaf : Leaf) {rendering : Rendering String}
    (ok : ∀ (sink : Sink) (s : String), leaf.write renderer sink.isSome = .ok s →
      rendering.run.run sink = (.ok s, sink.after [leaf]))
    (error : ∀ (sink : Sink) (e : Error), leaf.write renderer sink.isSome = .error e →
      rendering.run.run sink = (.error e, sink)) :
    Traverses renderer rendering [leaf] fun written => written leaf where
  writes := by
    intro sink written can
    exact ok sink (written leaf) (can leaf List.mem_cons_self)
  fails := by
    intro sink before other after e split _ cannot
    cases before with
    | nil =>
      cases split
      rw [Sink.after_nil]
      exact error sink e cannot
    | cons earlier before => simp at split

/-- A rendering gives a text exactly if each of its leaves can be written. -/
theorem exists_text_iff {rendering : Rendering String} {leaves : List Leaf}
    {text : (Leaf → String) → String} (traverses : Traverses renderer rendering leaves text)
    (sink : Sink) :
    (∃ s, (rendering.run.run sink).1 = .ok s) ↔
      ∀ leaf ∈ leaves, ∃ s, leaf.write renderer sink.isSome = .ok s := by
  have writable {leaf : Leaf} : (leaf.write renderer sink.isSome).isOk = true ↔
      ∃ s, leaf.write renderer sink.isSome = .ok s := by
    cases leaf.write renderer sink.isSome <;> simp [Except.isOk, Except.toBool]
  constructor
  · rintro ⟨s, rendered⟩ leaf member
    cases found : leaves.find? fun leaf => !(leaf.write renderer sink.isSome).isOk with
    | none =>
      have fine := List.find?_eq_none.mp found leaf member
      exact writable.mp (by simpa using fine)
    | some first =>
      -- the first leaf that cannot be written would have ended the rendering
      obtain ⟨unwritable, before, after, split, fine⟩ := List.find?_eq_some_iff_append.mp found
      have can : ∀ earlier ∈ before, ∃ s, earlier.write renderer sink.isSome = .ok s :=
        fun earlier isBefore => writable.mp (by simpa using fine earlier isBefore)
      cases cannot : first.write renderer sink.isSome with
      | ok s => simp [writable.mpr ⟨s, cannot⟩] at unwritable
      | error e =>
        rw [traverses.fails sink before first after e split can cannot] at rendered
        cases rendered
  · intro can
    obtain ⟨written, all⟩ := Leaf.exists_written can
    rw [traverses.writes sink written all]
    exact ⟨_, rfl⟩

end Traverses

/-! ## The leaves of values and of trees -/

namespace Rendering

variable {renderer : Renderer} (p : Parameter)

theorem traverses_null : Traverses renderer (value renderer p .null) [⟨p, .null⟩]
    fun written => written ⟨p, .null⟩ := by
  apply Traverses.leaf
  · intro sink s writes
    cases writes
    rw [Sink.after_of_payload?_eq_none rfl]
    rfl
  · intro sink e fails
    cases fails

theorem traverses_bytes (payload : List UInt8) :
    Traverses renderer (value renderer p (.bytes payload)) [⟨p, .bytes payload⟩]
      fun written => written ⟨p, .bytes payload⟩ := by
  apply Traverses.leaf
  · intro sink s writes
    cases sink with
    | none => cases writes
    | some payloads =>
      cases writes
      rfl
  · intro sink e fails
    cases sink with
    | none =>
      cases fails
      rfl
    | some payloads => cases fails

/-- Any other scalar value is written by the renderer. -/
theorem traverses_scalar {v : Value}
    (written : value renderer p v = liftM (renderer.render v (Leaf.kind ⟨p, v⟩)))
    (leaf : ∀ hasSink, Leaf.write renderer hasSink ⟨p, v⟩ = renderer.render v (Leaf.kind ⟨p, v⟩))
    (plain : Leaf.payload? ⟨p, v⟩ = none) :
    Traverses renderer (value renderer p v) [⟨p, v⟩] fun written => written ⟨p, v⟩ := by
  rw [written]
  apply Traverses.leaf
  · intro sink s writes
    rw [leaf] at writes
    rw [writes, Sink.after_of_payload?_eq_none plain]
    rfl
  · intro sink e fails
    rw [leaf] at fails
    rw [fails]
    rfl

mutual

/-- The text of a value is that of its scalar values, written one after another. -/
theorem traverses_value (v : Value) :
    Traverses renderer (value renderer p v) (v.scalars.map (Leaf.mk p))
      fun written => v.joined p.separator fun scalar => written ⟨p, scalar⟩ := by
  cases v with
  | array items =>
    rw [value, Value.scalars]
    exact traverses_elements items
  | null => exact traverses_null p
  | bytes payload => exact traverses_bytes p payload
  | _ => exact traverses_scalar p rfl (fun _ => rfl) rfl

theorem traverses_elements (items : List Value) :
    Traverses renderer (elements renderer p items) ((Value.scalarsAll items).map (Leaf.mk p))
      fun written => p.separator.intercalate
        (Value.joinedAll p.separator (fun scalar => written ⟨p, scalar⟩) items) := by
  cases items with
  | nil => exact Traverses.pure ""
  | cons item items =>
    have head := traverses_value item
    have tail := traverses_elements items
    cases items with
    | nil =>
      rw [Value.scalarsAll, Value.scalarsAll, List.append_nil]
      exact head
    | cons next items =>
      have both := (head.append (Traverses.pure p.separator)).append tail
      simp only [List.append_nil, bind_assoc, pure_bind] at both
      rw [elements, Value.scalarsAll, List.map_append]
      simpa only [Value.joinedAll, String.intercalate_cons_cons] using both

end

end Rendering

/-- The leaves at a parameter. A missing value counts as null. -/
def Parameter.leaves (values : String → Option Value) (p : Parameter) : List Leaf :=
  ((values p.key).getD .null).scalars.map (Leaf.mk p)

/-- The text at a parameter, given those of its leaves. -/
def Parameter.filled (values : String → Option Value) (written : Leaf → String) (p : Parameter) :
    String :=
  ((values p.key).getD .null).joined p.separator fun scalar => written ⟨p, scalar⟩

/-- The text that a piece gives in a statement, given the texts at its parameters. -/
def Piece.filled (text : Parameter → String) : Piece → List Char
  | parameter p => (text p).toList
  | piece => piece.written

/-- The text of a tree with given texts at its parameters. -/
def Node.filled (text : Parameter → String) (node : Node) : String :=
  String.ofList (node.pieces.flatMap (Piece.filled text))

/-- The leaves of a tree in the order of its text. -/
def Node.leaves (values : String → Option Value) (node : Node) : List Leaf :=
  node.parameters.flatMap (Parameter.leaves values)

namespace Piece

/-- The leaves at a piece: none, unless it is a parameter. -/
def leaves (values : String → Option Value) : Piece → List Leaf
  | parameter p => p.leaves values
  | char _ | dollar | quoted _ _ => []

theorem flatMap_leaves (values : String → Option Value) (pieces : List Piece) :
    pieces.flatMap (leaves values) =
      (pieces.filterMap parameter?).flatMap (Parameter.leaves values) := by
  induction pieces with
  | nil => rfl
  | cons piece pieces ih =>
    rw [List.flatMap_cons, List.filterMap_cons, ih]
    cases piece <;> rfl

variable (context : RenderContext)

theorem traverses_render (piece : Piece) :
    Traverses context.renderer (piece.render context) (piece.leaves context.values)
      fun written => String.ofList (piece.filled (Parameter.filled context.values written)) := by
  cases piece with
  | char c => exact Traverses.pure c.toString
  | dollar => exact Traverses.pure "$"
  | quoted text delimiter => exact Traverses.pure _
  | parameter p =>
    simp only [filled, String.ofList_toList]
    exact Rendering.traverses_value p ((context.values p.key).getD .null)

/-- Pieces in a row go through the leaves at them. -/
theorem traverses_renderAll (pieces : List Piece) :
    Traverses context.renderer (renderAll context pieces) (pieces.flatMap (leaves context.values))
      fun written => String.ofList
        (pieces.flatMap (filled (Parameter.filled context.values written))) := by
  induction pieces with
  | nil => exact Traverses.pure ""
  | cons piece pieces ih =>
    have both := (traverses_render context piece).append ih
    rw [renderAll]
    simpa only [← String.ofList_append, ← List.flatMap_cons] using both

end Piece

/-- A tree goes through its leaves in the order of its text. -/
theorem Node.traverses_render (context : RenderContext) (node : Node) :
    Traverses context.renderer (node.render context) (node.leaves context.values)
      fun written => node.filled (Parameter.filled context.values written) := by
  rw [render_eq_renderAll, leaves, parameters_eq_filterMap, ← Piece.flatMap_leaves]
  exact Piece.traverses_renderAll context node.pieces

namespace RendererConfig

/-- A value that has the view asked for fails later or not at all. -/
theorem bind_require_eq_error {α : Type} {value : Value} {kind : Kind} {view : Option α}
    {write : α → Except Error String} {e : Error}
    (fails : (require value kind view >>= write) = .error e) :
    e = conversion value kind ∨ ∃ a, write a = .error e := by
  cases view with
  | none =>
    left
    cases fails
    rfl
  | some a =>
    right
    exact ⟨a, fails⟩

theorem dateLiteral_eq_error {config : RendererConfig} {t : Timestamp} {e : Error}
    (fails : config.dateLiteral t = .error e) :
    Calendar.Pattern.of? config.dateFormat = none ∧ e = .unwritableDate config.dateFormat := by
  unfold dateLiteral at fails
  split at fails
  · cases fails
  · rename_i unwritable
    cases fails
    exact ⟨unwritable, rfl⟩

/-- The standard renderer fails on a value without a form in the kind, or on a date that it cannot
write. -/
theorem render_eq_error {config : RendererConfig} {value : Value} {kind : Kind} {e : Error}
    (fails : config.render value kind = .error e) :
    e = conversion value kind ∨
      kind = .date ∧ Calendar.Pattern.of? config.dateFormat = none ∧
        e = .unwritableDate config.dateFormat := by
  cases kind with
  | text => cases fails
  | raw => cases fails
  | date =>
    rcases bind_require_eq_error fails with unreadable | ⟨t, unwritable⟩
    · exact .inl unreadable
    · exact .inr ⟨rfl, dateLiteral_eq_error unwritable⟩
  | _ =>
    rcases bind_require_eq_error fails with unreadable | ⟨a, written⟩
    · exact .inl unreadable
    · cases written

end RendererConfig

/-- A template is rendered in the order of its text. If each of its leaves can be written, the
statement is the text of the tree with the texts of the leaves in it, and the payloads among them
are bound in their order. Otherwise the first leaf that cannot be written decides the failure, and
the payloads before it are bound. A payload fails for want of a sink, any other leaf because the
renderer fails on it; the standard renderer does so with a conversion error, unless it has to write
a date in a format that cannot be written. -/
theorem Template.render_in_order (template : Template) (values : String → Option Value)
    (sink : Sink) :
    (∀ written : Leaf → String,
      (∀ leaf ∈ template.root.leaves values,
        leaf.write template.renderer sink.isSome = .ok (written leaf)) →
      template.render values sink =
        (.ok (template.root.filled (Parameter.filled values written)),
          sink.after (template.root.leaves values))) ∧
    ∀ before leaf after e, template.root.leaves values = before ++ leaf :: after →
      (∀ earlier ∈ before, ∃ s, earlier.write template.renderer sink.isSome = .ok s) →
      leaf.write template.renderer sink.isSome = .error e →
      template.render values sink = (.error e, sink.after before) ∧
        ((∃ payload, leaf.value = .bytes payload) ∧ sink = none ∧ e = leaf.unbound ∨
          leaf.payload? = none ∧ template.renderer.render leaf.value leaf.kind = .error e ∧
            ∀ config, template.renderer = .standard config →
              e = RendererConfig.conversion leaf.value leaf.kind ∨
                leaf.kind = .date ∧ Calendar.Pattern.of? config.dateFormat = none ∧
                  e = .unwritableDate config.dateFormat) := by
  have traverses := template.root.traverses_render ⟨template.renderer, values⟩
  constructor
  · exact traverses.writes sink
  · intro before leaf after e split can cannot
    constructor
    · exact traverses.fails sink before leaf after e split can cannot
    · rcases leaf.write_eq_error cannot with ⟨bytes, none, unbound⟩ | ⟨plain, fails⟩
      · left
        exact ⟨bytes, by simpa using none, unbound⟩
      · right
        refine ⟨plain, fails, ?_⟩
        intro config standard
        rw [standard] at fails
        exact RendererConfig.render_eq_error fails

/-- A call of a collection with a separator of its own and of a number. -/
def nestedTemplate : Template where
  source := "f($a,,;$, $b,int$)"
  root := .sequence [.call "f" [.sequence [.parameter ⟨["a", "", ";"], none⟩],
    .sequence [.word " ", .parameter ⟨["b", "int"], some .integer⟩]]]
  renderer := .standard {}

/-- A collection with payloads around an empty collection and a number, and a text. -/
def nestedBindings (text key : String) : Option Value :=
  some (if key = "a" then .array [.array [.bytes [1]], .array [], .int 5, .bytes [2]]
    else .text text)

theorem nested_render_in_order :
    TemplateCompiler.lenient.compile nestedTemplate.source = .ok nestedTemplate ∧
      nestedTemplate.render (nestedBindings "7") (some [[9]]) =
        (.ok "f(?;;5;?, 7)", some [[9], [1], [2]]) ∧
      nestedTemplate.render (nestedBindings "x") (some [[9]]) =
        (.error (.conversion "Text x" "integer"), some [[9], [1], [2]]) ∧
      nestedTemplate.render (nestedBindings "x") none =
        (.error (Leaf.unbound ⟨⟨["a", "", ";"], none⟩, .bytes [1]⟩), none) := by
  have leaves (text : String) : nestedTemplate.root.leaves (nestedBindings text) =
      [⟨⟨["a", "", ";"], none⟩, .bytes [1]⟩, ⟨⟨["a", "", ";"], none⟩, .int 5⟩,
        ⟨⟨["a", "", ";"], none⟩, .bytes [2]⟩, ⟨⟨["b", "int"], some .integer⟩, .text text⟩] := rfl
  have parsed : TemplateCompiler.lenient.parse nestedTemplate.source = .ok nestedTemplate.root := by
    decide +kernel
  refine ⟨TemplateCompiler.compile_eq_ok_iff.mpr ⟨_, parsed, rfl⟩, ?_, ?_, ?_⟩
  · have writes := (nestedTemplate.render_in_order (nestedBindings "7") (some [[9]])).1
      fun leaf => (leaf.write (.standard {}) true).toOption.getD ""
    rw [leaves] at writes
    rw [writes]
    · decide +kernel
    · intro leaf member
      simp only [List.mem_cons, List.not_mem_nil, or_false] at member
      rcases member with rfl | rfl | rfl | rfl <;> decide +kernel
  · have fails := (nestedTemplate.render_in_order (nestedBindings "x") (some [[9]])).2
      [⟨⟨["a", "", ";"], none⟩, .bytes [1]⟩, ⟨⟨["a", "", ";"], none⟩, .int 5⟩,
        ⟨⟨["a", "", ";"], none⟩, .bytes [2]⟩] _ [] (.conversion "Text x" "integer")
      (leaves "x")
    refine (fails ?_ ?_).1
    · intro leaf member
      simp only [List.mem_cons, List.not_mem_nil, or_false] at member
      rcases member with rfl | rfl | rfl
      · exact ⟨"?", rfl⟩
      · exact ⟨"5", by decide +kernel⟩
      · exact ⟨"?", rfl⟩
    · decide +kernel
  · have fails := (nestedTemplate.render_in_order (nestedBindings "x") none).2 [] _ _ _
      (leaves "x") (by simp) rfl
    exact fails.1

/-- A date format that cannot be written makes a rendering fail in a way that is no conversion
error. -/
theorem unwritable_date_fails : ∃ template,
    TemplateCompiler.compile { renderer := .standard { dateFormat := "%Q" } } "$d$" =
        .ok template ∧
      template.render (fun _ => some (.date ⟨2024, 1, 5, by decide⟩)) none =
        (.error (.unwritableDate "%Q"), none) ∧
      ∀ value kind, Error.unwritableDate "%Q" ≠ .conversion value kind := by
  have parsed : TemplateCompiler.parse { renderer := .standard { dateFormat := "%Q" } } "$d$" =
      .ok (.sequence [.parameter ⟨["d"], none⟩]) := by
    decide +kernel
  refine ⟨_, TemplateCompiler.compile_eq_ok_iff.mpr ⟨_, parsed, rfl⟩, ?_, ?_⟩
  · decide +kernel
  · intro value kind same
    cases same

end TransactionKit
