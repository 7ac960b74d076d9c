import TransactionKit.Proofs.Value.ExactInteger
import TransactionKit.Template.Renderer

/-!
Integers in a statement. Rendered in one of the two integer kinds, a value is written as the decimal
form of the integer that it stands for, or refused when it stands for none in the range of the kind.
`RendererConfig.writesExactly_iff` says when that is so: always, except that a double beyond the
integers of 64 bits is not refused as a long, but written as the end of the range.
-/

namespace TransactionKit

/-- The integers that a literal of a kind has room for. -/
def Kind.Fits : Kind → Int → Prop
  | .integer, i => IsInt32 i
  | .long, i => IsInt64 i
  | _, _ => False

namespace Renderer

variable {r : Renderer} {value : Value} {kind : Kind}

/-- The text of a value is written after what is in the output. -/
theorem run_write_of_ok {text : String} (rendered : r.render value kind = .ok text)
    (out : String) : (r.write value kind).run.run out = (.ok (), out ++ text) := by
  rw [write, rendered]
  rfl

/-- A value that cannot be rendered leaves the output alone. -/
theorem run_write_of_error {e : Error} (failed : r.render value kind = .error e) (out : String) :
    (r.write value kind).run.run out = (.error e, out) := by
  rw [write, failed]
  rfl

end Renderer

namespace RendererConfig

/-- A value is written in a kind as the decimal form of the one integer that it stands for, which
fits the kind, or, if it stands for no such integer, refused with the output left alone. -/
def WritesExactly (config : RendererConfig) (v : Value) (kind : Kind) : Prop :=
  ∀ out : String,
    (∃ i, (∀ j, v.Denotes j ↔ j = i) ∧ kind.Fits i ∧
      ((Renderer.standard config).write v kind).run.run out = (.ok (), out ++ toString i)) ∨
    (∀ i, v.Denotes i → ¬kind.Fits i) ∧
      ((Renderer.standard config).write v kind).run.run out = (.error (conversion v kind), out)

variable (config : RendererConfig) {v : Value} {kind : Kind}

/-- In an integer kind a value is rendered by its integer view, which must fit the kind. -/
theorem render_of_integral (integral : kind = .integer ∨ kind = .long) (v : Value) :
    (∃ i, v.integer? = some i ∧ kind.Fits i ∧ config.render v kind = .ok (toString i)) ∨
      (∀ i, v.integer? = some i → ¬kind.Fits i) ∧
        config.render v kind = .error (conversion v kind) := by
  cases view : v.integer? with
  | none =>
    right
    refine ⟨fun i some => (by cases some), ?_⟩
    rcases integral with rfl | rfl <;> simp [render, view, require, bind, Except.bind]
  | some i =>
    by_cases fits : kind.Fits i
    · left
      refine ⟨i, rfl, fits, ?_⟩
      rcases integral with rfl | rfl
      · have inRange : IsInt32 i := fits
        simp [render, view, Option.filter, inRange, require, bind, Except.bind, pure, Except.pure]
      · simp [render, view, require, bind, Except.bind, pure, Except.pure]
    · right
      refine ⟨fun j same => Option.some.inj same ▸ fits, ?_⟩
      rcases integral with rfl | rfl
      · have outside : ¬IsInt32 i := fits
        simp [render, view, Option.filter, outside, require, bind, Except.bind]
      · obtain ⟨j, -, rfl, -⟩ := Value.integer?_eq_some_iff.mp view
        exact absurd (isInt64_clampInt64 j) fits

/-- An integer that had to be moved into 64 bits does not get into a smaller range by that. -/
theorem eq_of_fits_clampInt64 {j : Int} (fits : kind.Fits (clampInt64 j)) :
    IsInt64 j ∨ kind = .long := by
  cases kind with
  | long => exact .inr rfl
  | integer =>
    left
    simp only [Kind.Fits, IsInt32, clampInt64] at fits
    unfold IsInt64
    omega
  | _ => cases fits

/-- As a long, a double is written as the integer of 64 bits next to the one that it stands for. -/
theorem write_long_of_denotes {x : Binary64} {i : Int} (denotes : (Value.float x).Denotes i)
    (out : String) :
    ((Renderer.standard config).write (.float x) .long).run.run out =
      (.ok (), out ++ toString (clampInt64 i)) := by
  have view : (Value.float x).integer? = some (clampInt64 i) :=
    Value.integer?_eq_some_iff.mpr ⟨i, denotes, rfl, .inr ⟨x, rfl⟩⟩
  apply Renderer.run_write_of_ok
  rcases config.render_of_integral (.inr rfl) (.float x) with ⟨j, same, -, rendered⟩ | ⟨none, -⟩
  · rw [view] at same
    rw [Option.some.inj same]
    exact rendered
  · exact absurd (isInt64_clampInt64 i) (none _ view)

theorem not_writesExactly_of_beyond {x : Binary64} {i : Int}
    (denotes : (Value.float x).Denotes i) (beyond : ¬IsInt64 i) :
    ¬config.WritesExactly (.float x) .long := by
  intro exactly
  rcases exactly "" with ⟨j, only, fits, -⟩ | ⟨-, refused⟩
  · exact beyond ((only i).mp denotes ▸ fits)
  · rw [config.write_long_of_denotes denotes] at refused
    cases refused

/-- In an integer kind every value is written exactly or refused, but for one case: a double whose
integer has more than 64 bits, as a long. -/
theorem writesExactly_iff (integral : kind = .integer ∨ kind = .long) (v : Value) :
    config.WritesExactly v kind ↔
      (kind = .long → ∀ x, v = .float x → ∀ i, v.Denotes i → IsInt64 i) := by
  constructor
  · rintro exactly rfl x rfl i denotes
    by_contra beyond
    exact config.not_writesExactly_of_beyond denotes beyond exactly
  intro bounded out
  -- The view is the integer that the value stands for wherever it fits the kind.
  have exactly {i j : Int} (denotes : v.Denotes j) (clamped : i = clampInt64 j)
      (small : IsInt64 j ∨ ∃ x, v = .float x) (fits : kind.Fits i) : i = j := by
    have inRange : IsInt64 j := by
      rcases small with small | ⟨x, rfl⟩
      · exact small
      · rcases eq_of_fits_clampInt64 (clamped ▸ fits) with small | long
        · exact small
        · exact bounded long x rfl j denotes
    rw [clamped, clampInt64_eq_self inRange]
  rcases config.render_of_integral integral v with ⟨i, view, fits, rendered⟩ | ⟨none, failed⟩
  · left
    obtain ⟨j, denotes, clamped, small⟩ := Value.integer?_eq_some_iff.mp view
    obtain rfl := exactly denotes clamped small fits
    refine ⟨i, fun k => ⟨fun other => other.unique denotes, ?_⟩, fits,
      Renderer.run_write_of_ok rendered out⟩
    rintro rfl
    exact denotes
  · right
    refine ⟨fun i denotes fits => ?_, Renderer.run_write_of_error failed out⟩
    have inRange : IsInt64 i := by
      rcases integral with rfl | rfl
      · simp only [Kind.Fits, IsInt32] at fits
        unfold IsInt64
        omega
      · exact fits
    have view := Value.integer?_eq_some_iff.mpr ⟨i, denotes, rfl, .inl inRange⟩
    rw [clampInt64_eq_self inRange] at view
    exact none i view fits

/-- The least integer of 64 bits as a double, and a text with a sign, zeros and blanks. -/
theorem writesExactly_least_double :
    WritesExactly {} (.float ⟨0xC3E0000000000000⟩) .long ∧
      ((Renderer.standard {}).write (.float ⟨0xC3E0000000000000⟩) .long).run.run "x = " =
        (.ok (), "x = -9223372036854775808") ∧
      WritesExactly {} (.text "\t+0012 ") .integer ∧
      ((Renderer.standard {}).write (.text "\t+0012 ") .integer).run.run "x = " =
        (.ok (), "x = 12") := by
  have least : (Value.float ⟨0xC3E0000000000000⟩).Denotes (-9223372036854775808) :=
    Value.denotes_float_iff.mpr (by decide +kernel)
  have twelve : (Value.text "\t+0012 ").Denotes 12 := .text (Text.spells_iff.mpr (by decide +kernel))
  have long := (writesExactly_iff {} (.inr rfl) (.float ⟨0xC3E0000000000000⟩)).mpr
    fun _ _ _ i denotes => by
      rw [denotes.unique least]
      decide
  have integer := (writesExactly_iff {} (.inl rfl) (.text "\t+0012 ")).mpr
    fun isLong => by cases isLong
  refine ⟨long, ?_, integer, ?_⟩
  · rcases long "x = " with ⟨i, only, -, written⟩ | ⟨none, -⟩
    · obtain rfl := (only _).mp least
      exact written
    · exact absurd (by decide : IsInt64 _) (none _ least)
  · rcases integer "x = " with ⟨i, only, -, written⟩ | ⟨none, -⟩
    · obtain rfl := (only _).mp twelve
      exact written
    · exact absurd (by decide : IsInt32 _) (none _ twelve)

/-- The double next above the integers of 64 bits is written as the greatest of them. -/
theorem not_writesExactly_greater_double :
    (Value.float ⟨0x43E0000000000000⟩).Denotes 9223372036854775808 ∧
      ¬Kind.long.Fits 9223372036854775808 ∧
      ((Renderer.standard {}).write (.float ⟨0x43E0000000000000⟩) .long).run.run "" =
        (.ok (), "9223372036854775807") ∧
      ¬WritesExactly {} (.float ⟨0x43E0000000000000⟩) .long := by
  have denotes : (Value.float ⟨0x43E0000000000000⟩).Denotes 9223372036854775808 :=
    Value.denotes_float_iff.mpr (by decide +kernel)
  have beyond : ¬IsInt64 9223372036854775808 := by decide
  exact ⟨denotes, beyond, write_long_of_denotes {} denotes "",
    not_writesExactly_of_beyond {} denotes beyond⟩

end RendererConfig

end TransactionKit
