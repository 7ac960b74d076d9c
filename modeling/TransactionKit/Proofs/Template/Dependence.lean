import Mathlib.Algebra.Order.BigOperators.Group.List
import Mathlib.Algebra.Order.Group.Nat
import TransactionKit.Proofs.Template.Leaves

/-!
What a rendering depends on. A place in a tree is a path from the root, which says for each level
which child to go to; the places are in the order of the text when their paths are in lexicographic
order. The names of a template are the keys of the parameters that stand at some place, each listed
where it occurs for the first time. Two lookups that agree on these names give the same rendering,
and none of the names can be left out: with the standard renderer a collection without elements
gives no text, where a missing value gives one (`parameterNames_determine_render`).
-/

namespace TransactionKit

/-- The images of an ordered list without repetitions are in the order in which each occurs for the
first time. -/
theorem pairwise_eraseDups_map {α β : Type} [BEq β] [LawfulBEq β] {before : α → α → Prop}
    (f : α → β) : ∀ {l : List α}, l.Pairwise before →
      (l.map f).eraseDups.Pairwise fun b c => ∃ x ∈ l, f x = b ∧ ∀ y ∈ l, f y = c → before x y
  | [], _ => List.Pairwise.nil
  | x :: l, ordered => by
      obtain ⟨first, ordered⟩ := List.pairwise_cons.mp ordered
      -- what is left without the first image is ordered by itself
      have later := pairwise_eraseDups_map f (ordered.filter fun y => !f y == f x)
      have images : (l.map f).filter (fun b => !b == f x) =
          (l.filter fun y => !f y == f x).map f := List.filter_map
      rw [List.map_cons, List.eraseDups_cons, images]
      have keeps {y : α} {c : β}
          (member : c ∈ ((l.filter fun y => !f y == f x).map f).eraseDups)
          (there : y ∈ x :: l) (image : f y = c) : y ∈ l.filter fun y => !f y == f x := by
        obtain ⟨z, isLeft, rfl⟩ := List.mem_map.mp (List.mem_eraseDups.mp member)
        have distinct : f y ≠ f x := by simpa [image] using (List.mem_filter.mp isLeft).2
        have ne : y ≠ x := fun same => distinct (by rw [same])
        exact List.mem_filter.mpr
          ⟨(List.mem_cons.mp there).resolve_left ne, by simpa using distinct⟩
      refine List.pairwise_cons.mpr ⟨fun c member => ?_, later.imp_of_mem ?_⟩
      · refine ⟨x, List.mem_cons_self, rfl, fun y there image => ?_⟩
        exact first y (List.mem_of_mem_filter (keeps member there image))
      · rintro b c - isLater ⟨y, isLeft, image, sooner⟩
        refine ⟨y, List.mem_cons_of_mem _ (List.mem_of_mem_filter isLeft), image, ?_⟩
        exact fun z there same => sooner z (keeps isLater there same) same
termination_by l => l.length
decreasing_by exact Nat.lt_succ_of_le (List.length_filter_le _ _)

namespace Node

/-! ## The places of parameters -/

/-- The nodes directly below a node, from left to right. -/
def children : Node → List Node
  | sequence children | group children => children
  | call _ args => args
  | literal _ | number _ | word _ | quoted _ _ | parameter _ => []

/-- The node at a place. -/
def descendant? (node : Node) : List Nat → Option Node
  | [] => some node
  | i :: path => do (← node.children[i]?).descendant? path

/-- A parameter with a name stands at some place of a tree. -/
def Mentions (root : Node) (name : String) : Prop :=
  ∃ path p, root.descendant? path = some (parameter p) ∧ p.key = name

/-- A name occurs before every occurrence of another one. -/
def MentionsBefore (root : Node) (first second : String) : Prop :=
  ∃ path p, root.descendant? path = some (parameter p) ∧ p.key = first ∧
    ∀ other q, root.descendant? other = some (parameter q) → q.key = second → path < other

mutual

/-- The parameters of a node with their places, in the order of its text. -/
def placed : Node → List (List Nat × Parameter)
  | parameter p => [([], p)]
  | sequence children => placedFrom 0 children
  | group children => placedFrom 0 children
  | call _ args => placedFrom 0 args
  | literal _ | number _ | word _ | quoted _ _ => []

/-- The parameters of children from a certain one on. -/
def placedFrom (i : Nat) : List Node → List (List Nat × Parameter)
  | [] => []
  | node :: nodes => node.placed.map (Prod.map (i :: ·) id) ++ placedFrom (i + 1) nodes

end

mutual

theorem map_snd_placed : ∀ node : Node, node.placed.map Prod.snd = node.parameters
  | parameter _ => rfl
  | sequence children => map_snd_placedFrom 0 children
  | group children => map_snd_placedFrom 0 children
  | call _ args => map_snd_placedFrom 0 args
  | literal _ | number _ | word _ | quoted _ _ => rfl

theorem map_snd_placedFrom (i : Nat) :
    ∀ nodes : List Node, (placedFrom i nodes).map Prod.snd = parametersAll nodes
  | [] => rfl
  | node :: nodes => by
      rw [placedFrom, parametersAll, List.map_append, map_snd_placedFrom (i + 1) nodes,
        ← map_snd_placed node]
      simp

end

/-- A parameter below a node that is none itself is below one of its children. -/
theorem descendant?_eq_parameter_iff {node : Node} {path : List Nat} {p : Parameter}
    (inner : ∀ q, node ≠ parameter q) :
    node.descendant? path = some (parameter p) ↔ ∃ j rest, path = j :: rest ∧
      (node.children[j]?).bind (·.descendant? rest) = some (parameter p) := by
  cases path with
  | nil => simpa [descendant?] using inner p
  | cons i path => simp [descendant?]

mutual

/-- Exactly the parameters at some place are listed, each with its place. -/
theorem mem_placed_iff {path : List Nat} {p : Parameter} :
    ∀ {node : Node}, (path, p) ∈ node.placed ↔ node.descendant? path = some (parameter p)
  | parameter q => by cases path <;> simp [placed, descendant?, children, eq_comm]
  | sequence nodes | group nodes | call _ nodes => by
      rw [descendant?_eq_parameter_iff (by simp), placed, mem_placedFrom_iff]
      simp [children]
  | literal _ | number _ | word _ | quoted _ _ => by
      rw [descendant?_eq_parameter_iff (by simp)]
      simp [placed, children]

theorem mem_placedFrom_iff {path : List Nat} {p : Parameter} {i : Nat} :
    ∀ {nodes : List Node}, (path, p) ∈ placedFrom i nodes ↔ ∃ j rest, path = (i + j) :: rest ∧
      (nodes[j]?).bind (·.descendant? rest) = some (parameter p)
  | [] => by simp [placedFrom]
  | node :: nodes => by
      have inner (rest : List Nat) :
          (rest, p) ∈ node.placed ↔ node.descendant? rest = some (parameter p) := mem_placed_iff
      have first : (path, p) ∈ node.placed.map (Prod.map (i :: ·) id) ↔
          ∃ rest, path = i :: rest ∧ node.descendant? rest = some (parameter p) := by
        simp [← inner, and_comm, eq_comm]
      rw [placedFrom, List.mem_append, first, mem_placedFrom_iff]
      constructor
      · rintro (⟨rest, rfl, found⟩ | ⟨j, rest, rfl, found⟩)
        · exact ⟨0, rest, rfl, found⟩
        · exact ⟨j + 1, rest, by rw [Nat.add_assoc, Nat.add_comm 1 j], found⟩
      · rintro ⟨j, rest, rfl, found⟩
        cases j with
        | zero => exact .inl ⟨rest, rfl, found⟩
        | succ j => exact .inr ⟨j, rest, by rw [Nat.add_assoc, Nat.add_comm 1 j], found⟩

end

mutual

/-- The places are listed in order. -/
theorem pairwise_placed : ∀ node : Node, node.placed.Pairwise fun x y => x.1 < y.1
  | parameter _ => List.pairwise_singleton ..
  | sequence nodes | group nodes | call _ nodes => pairwise_placedFrom 0 nodes
  | literal _ | number _ | word _ | quoted _ _ => List.Pairwise.nil

theorem pairwise_placedFrom (i : Nat) :
    ∀ nodes : List Node, (placedFrom i nodes).Pairwise fun x y => x.1 < y.1
  | [] => List.Pairwise.nil
  | node :: nodes => by
      refine List.pairwise_append.mpr ⟨?_, pairwise_placedFrom (i + 1) nodes, ?_⟩
      · refine List.pairwise_map.mpr ((pairwise_placed node).imp fun sooner => ?_)
        exact List.cons_lt_cons_iff.mpr (.inr ⟨rfl, sooner⟩)
      · rintro x inFirst ⟨path, p⟩ inRest
        obtain ⟨y, -, rfl⟩ := List.mem_map.mp inFirst
        obtain ⟨j, rest, rfl, -⟩ := mem_placedFrom_iff.mp inRest
        exact List.cons_lt_cons_iff.mpr (.inl (by omega))

end

/-- The keys of the parameters are those that the tree mentions. -/
theorem mem_parameterKeys_iff {root : Node} {name : String} :
    name ∈ root.parameterKeys ↔ root.Mentions name := by
  rw [parameterKeys, List.mem_eraseDups, ← map_snd_placed, List.map_map, List.mem_map]
  constructor
  · rintro ⟨⟨path, p⟩, member, rfl⟩
    exact ⟨path, p, mem_placed_iff.mp member, rfl⟩
  · rintro ⟨path, p, found, rfl⟩
    exact ⟨(path, p), mem_placed_iff.mpr found, rfl⟩

/-- They are listed in the order of first occurrence. -/
theorem pairwise_parameterKeys (root : Node) : root.parameterKeys.Pairwise root.MentionsBefore := by
  rw [parameterKeys, ← map_snd_placed, List.map_map]
  refine (pairwise_eraseDups_map _ (pairwise_placed root)).imp ?_
  rintro first second ⟨⟨path, p⟩, member, rfl, sooner⟩
  refine ⟨path, p, mem_placed_iff.mp member, rfl, fun other q found same => ?_⟩
  exact sooner (other, q) (mem_placed_iff.mpr found) same

theorem MentionsBefore.ne {root : Node} {first second : String}
    (sooner : root.MentionsBefore first second) : first ≠ second := by
  rintro rfl
  obtain ⟨path, p, found, same, least⟩ := sooner
  exact List.lt_irrefl path (least path p found same)

end Node

/-! ## What the values do to a rendering -/

namespace Piece

variable {context : RenderContext}

/-- Values that agree on the keys of the parameters give the same rendering. -/
theorem renderAll_congr {renderer : Renderer} {values others : String → Option Value}
    {pieces : List Piece} (agree : ∀ p, parameter p ∈ pieces → values p.key = others p.key) :
    renderAll ⟨renderer, values⟩ pieces = renderAll ⟨renderer, others⟩ pieces := by
  induction pieces with
  | nil => rfl
  | cons piece pieces ih =>
    have first : piece.render ⟨renderer, values⟩ = piece.render ⟨renderer, others⟩ := by
      cases piece with
      | char | dollar | quoted => rfl
      | parameter p => simp only [render, Rendering.parameter, agree p List.mem_cons_self]
    have rest := ih fun p member => agree p (List.mem_cons_of_mem _ member)
    simp only [renderAll, first, rest]

/-- Where each parameter gives a text, so do pieces. -/
theorem renderAll_eq_pure {text : Parameter → String} {pieces : List Piece}
    (gives : ∀ p, Rendering.parameter context p = pure (text p)) :
    renderAll context pieces = pure (String.ofList (pieces.flatMap (filled text))) := by
  induction pieces with
  | nil => rfl
  | cons piece pieces ih =>
    have first : piece.render context = pure (String.ofList (piece.filled text)) := by
      cases piece with
      | char c => rfl
      | dollar => rfl
      | quoted => rfl
      | parameter p => simp [render, gives, filled]
    simp [renderAll, first, ih]

/-- A text at each parameter that is no longer than another one, and shorter at some parameter,
makes the whole shorter. -/
theorem length_filled_lt {text other : Parameter → String} {pieces : List Piece} {p : Parameter}
    (le : ∀ q, (text q).length ≤ (other q).length) (member : parameter p ∈ pieces)
    (lt : (text p).length < (other p).length) :
    (pieces.flatMap (filled text)).length < (pieces.flatMap (filled other)).length := by
  rw [List.length_flatMap, List.length_flatMap]
  apply List.sum_lt_sum
  · intro piece _
    cases piece with
    | parameter q => simpa only [filled, String.length_toList] using le q
    | _ => exact Nat.le_refl _
  · exact ⟨parameter p, member, by simpa only [filled, String.length_toList] using lt⟩

end Piece

namespace Node

theorem parameter_mem_pieces_iff {node : Node} {p : Parameter} :
    .parameter p ∈ node.pieces ↔ p ∈ node.parameters := by
  rw [parameters_eq_filterMap, List.mem_filterMap]
  constructor
  · exact fun member => ⟨_, member, rfl⟩
  · rintro ⟨piece, member, isParameter⟩
    cases piece with
    | parameter q =>
      cases isParameter
      exact member
    | _ => cases isParameter

theorem key_mem_parameterKeys {node : Node} {p : Parameter} (member : p ∈ node.parameters) :
    p.key ∈ node.parameterKeys :=
  List.mem_eraseDups.mpr (List.mem_map_of_mem member)

end Node

/-- No value at all, but for a name that stands for a collection without elements. -/
def emptyAt (name other : String) : Option Value :=
  if other = name then some (.array []) else none

/-- The text at a parameter for these values. -/
def Parameter.emptied (nullLiteral name : String) (p : Parameter) : String :=
  if p.key = name then "" else nullLiteral

theorem Rendering.parameter_emptyAt (renderer : Renderer) (name : String) (p : Parameter) :
    Rendering.parameter ⟨renderer, emptyAt name⟩ p =
      pure (p.emptied renderer.nullLiteral name) := by
  unfold Rendering.parameter emptyAt Parameter.emptied
  by_cases same : p.key = name
  · simp only [if_pos same, Option.getD_some, value, elements]
  · simp only [if_neg same, Option.getD_none, value]

theorem Rendering.parameter_none (renderer : Renderer) (p : Parameter) :
    Rendering.parameter ⟨renderer, fun _ => none⟩ p = pure renderer.nullLiteral := by
  simp [Rendering.parameter, value]

namespace Template

/-- Where every parameter gives a text the template gives one, and the sink is left alone. -/
theorem render_eq_ok {template : Template} {values : String → Option Value}
    {text : Parameter → String} (sink : Sink)
    (gives : ∀ p, Rendering.parameter ⟨template.renderer, values⟩ p = pure (text p)) :
    template.render values sink = (.ok (template.root.filled text), sink) := by
  rw [render, Node.render_eq_renderAll, Piece.renderAll_eq_pure gives]
  rfl

/-- A parameter with a text for null makes a difference. -/
theorem render_emptyAt_ne {template : Template} {name : String}
    (visible : template.renderer.nullLiteral ≠ "") (member : name ∈ template.parameterNames)
    (sink : Sink) :
    (template.render (emptyAt name) sink).1 ≠ (template.render (fun _ => none) sink).1 := by
  rw [render_eq_ok sink (Rendering.parameter_emptyAt template.renderer name),
    render_eq_ok sink (Rendering.parameter_none template.renderer)]
  intro same
  have texts := congrArg (List.length ∘ String.toList) (Except.ok.inj same)
  simp only [Node.filled, Function.comp_apply, String.toList_ofList] at texts
  obtain ⟨p, found, rfl⟩ := List.mem_map.mp (List.mem_eraseDups.mp member)
  refine absurd texts (Nat.ne_of_lt ?_)
  refine Piece.length_filled_lt (fun q => ?_) (Node.parameter_mem_pieces_iff.mpr found) ?_
  · unfold Parameter.emptied
    split
    · exact Nat.zero_le _
    · exact Nat.le_refl _
  · rw [Parameter.emptied, if_pos rfl]
    exact Nat.pos_of_ne_zero fun none => visible (String.length_eq_zero_iff.mp none)

/-- The names of a template are the keys of its parameters, each once, in the order in which they
occur for the first time. Lookups that agree on them give the same text or failure and the same
payloads. With the standard renderer each of them matters: two lookups that differ nowhere else give
different results. -/
theorem parameterNames_determine_render (template : Template) :
    ((∀ name, name ∈ template.parameterNames ↔ template.root.Mentions name) ∧
      template.parameterNames.Nodup ∧
      template.parameterNames.Pairwise template.root.MentionsBefore) ∧
    (∀ values others : String → Option Value,
      (∀ name ∈ template.parameterNames, values name = others name) →
        ∀ sink, template.render values sink = template.render others sink) ∧
    (∀ config, template.renderer = .standard config → ∀ name ∈ template.parameterNames,
      ∃ values others : String → Option Value,
        (∀ other, other ≠ name → values other = others other) ∧
        ∀ sink, (template.render values sink).1 ≠ (template.render others sink).1) := by
  refine ⟨⟨fun name => Node.mem_parameterKeys_iff, ?_, Node.pairwise_parameterKeys _⟩, ?_, ?_⟩
  · exact (Node.pairwise_parameterKeys template.root).imp Node.MentionsBefore.ne
  · intro values others agree sink
    rw [render, render, Node.render_eq_renderAll, Node.render_eq_renderAll]
    have atParameters (p : Parameter) (member : .parameter p ∈ template.root.pieces) :
        values p.key = others p.key :=
      agree p.key (Node.key_mem_parameterKeys (Node.parameter_mem_pieces_iff.mp member))
    rw [Piece.renderAll_congr atParameters]
  · intro config standard name member
    refine ⟨emptyAt name, fun _ => none, fun other ne => if_neg ne, ?_⟩
    exact render_emptyAt_ne (by simp [standard, Renderer.standard]) member

theorem parameterNames_determine_render_nested :
    let root : Node := .sequence [.call "f" [.sequence [.parameter ⟨[" b "], none⟩],
      .sequence [.group [.parameter ⟨["a"], none⟩]]], .word "+", .parameter ⟨["b"], none⟩]
    let template : Template := ⟨"f($ b $,($a$))+$b$", root, .standard {}⟩
    TemplateCompiler.lenient.parse template.source = .ok root ∧
      template.parameterNames = ["b", "a"] ∧ ∃ values others : String → Option Value,
        (∀ other, other ≠ "a" → values other = others other) ∧
        (template.render values none).1 ≠ (template.render others none).1 := by
  intro root template
  have names : template.parameterNames = ["b", "a"] := by decide +kernel
  obtain ⟨-, -, matters⟩ := parameterNames_determine_render template
  obtain ⟨values, others, elsewhere, differ⟩ := matters {} rfl "a" (by simp [names])
  exact ⟨by decide +kernel, names, values, others, elsewhere, differ none⟩

end Template

end TransactionKit
