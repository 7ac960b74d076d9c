import TransactionKit.Proofs.Template.Leaves

/-!
Kinds that are inferred. A parameter that names no kind leaves it to the variant of a value how the
value is written. The kind of a variant has room for all of its values, with one exception: a
constant of an enumeration is written as an integer of 32 bits with a sign, and its place in the
enumeration may be greater. So a statement whose doubles are finite can be written if and only if no
such constant is in it (`Template.render_inferred_iff`).
-/

namespace TransactionKit

theorem isInt32_toInt (i : Int32) : IsInt32 i.toInt := by
  have low := i.le_toInt
  have high := i.toInt_lt
  unfold IsInt32
  omega

/-- A value has room in the kind that is inferred for it. -/
def Value.FitsInferred : Value → Prop
  | float x => x.isFinite = true
  | enumeration ordinal _ => IsInt32 ordinal.toNat
  | _ => True

namespace RendererConfig

/-- A value that can be written from a view is written exactly if it has the view. -/
theorem exists_require_bind_iff {α : Type} {value : Value} {kind : Kind} {view : Option α}
    {write : α → Except Error String} (can : ∀ a, ∃ s, write a = .ok s) :
    (∃ s, (require value kind view >>= write) = .ok s) ↔ ∃ a, view = some a := by
  cases view with
  | none =>
    refine iff_of_false ?_ (by simp)
    rintro ⟨s, written⟩
    cases written
  | some a => exact iff_of_true (can a) ⟨a, rfl⟩

/-- Where dates can be written, so can every value in the kind inferred for it, if it has room. -/
theorem exists_write_inferred_iff {config : RendererConfig} {pattern : Calendar.Pattern}
    (writable : Calendar.Pattern.of? config.dateFormat = some pattern) {names : List String}
    (v : Value) :
    (∃ s, Leaf.write (.standard config) true ⟨⟨names, none⟩, v⟩ = .ok s) ↔ v.FitsInferred := by
  cases v with
  | int i =>
    refine (exists_require_bind_iff fun a => ⟨toString a, rfl⟩).trans ?_
    exact iff_of_true ⟨i.toInt, by simp [Value.integer?, isInt32_toInt]⟩ trivial
  | enumeration ordinal name =>
    refine (exists_require_bind_iff fun a => ⟨toString a, rfl⟩).trans ?_
    simp [Value.integer?, Value.FitsInferred, Option.filter_eq_some_iff]
  | float x =>
    refine (exists_require_bind_iff fun a : Binary64 => ⟨a.text, rfl⟩).trans ?_
    simp [Value.float?, Value.FitsInferred, Option.filter_eq_some_iff]
  | date d =>
    refine (exists_require_bind_iff fun t => ?_).trans (iff_of_true ⟨.ofDate d, rfl⟩ trivial)
    rw [dateLiteral, writable]
    exact ⟨_, rfl⟩
  | timestamp t =>
    refine (exists_require_bind_iff fun t => ?_).trans (iff_of_true ⟨t, rfl⟩ trivial)
    rw [dateLiteral, writable]
    exact ⟨_, rfl⟩
  | _ => exact iff_of_true ⟨_, rfl⟩ trivial

end RendererConfig

/-- The leaves of a tree are the scalar values bound to its parameters; where nothing is bound, null
is. -/
theorem Node.mem_leaves_iff {values : String → Option Value} {root : Node} {leaf : Leaf} :
    leaf ∈ root.leaves values ↔ leaf.parameter ∈ root.parameters ∧
      leaf.value ∈ ((values leaf.parameter.key).getD .null).scalars := by
  rw [leaves, List.mem_flatMap]
  constructor
  · rintro ⟨p, member, isLeaf⟩
    obtain ⟨scalar, inside, rfl⟩ := List.mem_map.mp isLeaf
    exact ⟨member, inside⟩
  · rintro ⟨member, inside⟩
    exact ⟨leaf.parameter, member, List.mem_map.mpr ⟨leaf.value, inside, rfl⟩⟩

/-- Without kinds named by its parameters, and with finite doubles only, a template is rendered by the
standard renderer with its own date format and a sink if and only if every constant of an enumeration
bound to one of the parameters has a place of 32 bits with a sign. -/
theorem Template.render_inferred_iff (template : Template) {config : RendererConfig}
    (standard : template.renderer = .standard config)
    (format : config.dateFormat = ({} : RendererConfig).dateFormat)
    (inferred : ∀ p ∈ template.root.parameters, p.kind? = none) (values : String → Option Value)
    (finite : ∀ name v x, values name = some v → .float x ∈ v.scalars → x.isFinite = true)
    (payloads : List (List UInt8)) :
    (∃ text, (template.render values (some payloads)).1 = .ok text) ↔
      ∀ p ∈ template.root.parameters, ∀ v ordinal name, values p.key = some v →
        .enumeration ordinal name ∈ v.scalars → IsInt32 ordinal.toNat := by
  obtain ⟨pattern, writable⟩ : ∃ pattern, Calendar.Pattern.of? config.dateFormat = some pattern := by
    rw [format]
    exact Option.isSome_iff_exists.mp (by decide +kernel)
  have traverses := template.root.traverses_render ⟨template.renderer, values⟩
  have fits : (∃ text, (template.render values (some payloads)).1 = .ok text) ↔
      ∀ leaf ∈ template.root.leaves values, leaf.value.FitsInferred := by
    refine (traverses.exists_text_iff (some payloads)).trans (forall₂_congr fun leaf member => ?_)
    obtain ⟨⟨names, kind?⟩, v⟩ := leaf
    obtain rfl : kind? = none := inferred _ (Node.mem_leaves_iff.mp member).1
    rw [standard]
    exact RendererConfig.exists_write_inferred_iff writable v
  rw [fits]
  constructor
  · intro all p member v ordinal name bound inside
    have isLeaf : Leaf.mk p (.enumeration ordinal name) ∈ template.root.leaves values :=
      Node.mem_leaves_iff.mpr ⟨member, by rw [bound]; exact inside⟩
    exact all _ isLeaf
  · intro ordinals leaf isLeaf
    obtain ⟨member, inside⟩ := Node.mem_leaves_iff.mp isLeaf
    cases bound : values leaf.parameter.key with
    | none =>
      rw [bound] at inside
      obtain same : leaf.value = .null := List.mem_singleton.mp inside
      rw [same]
      trivial
    | some v =>
      rw [bound] at inside
      cases shape : leaf.value with
      | float x => exact finite _ v x bound (shape ▸ inside)
      | enumeration ordinal name => exact ordinals _ member v ordinal name bound (shape ▸ inside)
      | _ => trivial

/-- Values at the ends of their ranges, some of them in collections. -/
def extremes (name : String) : Option Value :=
  if name = "a" then
    some (.array [.int (-2147483648), .array [.float ⟨0x7FEFFFFFFFFFFFFF⟩, .null, .array []],
      .enumeration 2147483647 "Last", .bytes [1]])
  else some (.date ⟨262142, 12, 31, by decide⟩)

theorem extremes_rendered : ∃ template,
    TemplateCompiler.lenient.compile "f($a$, $b$)" = .ok template ∧
      ∃ text, (template.render extremes (some [])).1 = .ok text := by
  have parsed : TemplateCompiler.lenient.parse "f($a$, $b$)" = .ok (.sequence [.call "f"
      [.sequence [.parameter ⟨["a"], none⟩],
        .sequence [.word " ", .parameter ⟨["b"], none⟩]]]) := by
    decide +kernel
  refine ⟨_, TemplateCompiler.compile_eq_ok_iff.mpr ⟨_, parsed, rfl⟩, ?_⟩
  refine (Template.render_inferred_iff _ rfl rfl ?_ extremes ?_ []).mpr ?_
  · decide +kernel
  · intro name v x bound inside
    unfold extremes at bound
    split at bound <;> cases bound
    · obtain rfl : x = ⟨0x7FEFFFFFFFFFFFFF⟩ := by
        simpa [Value.scalars, Value.scalarsAll] using inside
      decide +kernel
    · simp [Value.scalars] at inside
  · intro p member v ordinal name bound inside
    unfold extremes at bound
    split at bound <;> cases bound
    · obtain ⟨rfl, rfl⟩ : ordinal = 2147483647 ∧ name = "Last" := by
        simpa [Value.scalars, Value.scalarsAll] using inside
      decide
    · simp [Value.scalars] at inside

/-- A constant far down in its enumeration is not rendered, though the template names no kind. -/
theorem far_constant_not_rendered : ∃ template,
    TemplateCompiler.lenient.compile "$e$" = .ok template ∧
      (∀ p ∈ template.root.parameters, p.kind? = none) ∧
      template.render (fun _ => some (.enumeration 2147483648 "Far")) (some []) =
        (.error (.conversion "Enum Far" "integer"), some []) := by
  have parsed : TemplateCompiler.lenient.parse "$e$" =
      .ok (.sequence [.parameter ⟨["e"], none⟩]) := by
    decide +kernel
  refine ⟨_, TemplateCompiler.compile_eq_ok_iff.mpr ⟨_, parsed, rfl⟩, ?_, ?_⟩
  · decide +kernel
  · decide +kernel

end TransactionKit
