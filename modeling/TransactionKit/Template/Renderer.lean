import TransactionKit.Error
import TransactionKit.Text.Quoted
import TransactionKit.Value.Coercion

/-!
Renderers turn a value into the text of a statement. The standard renderer quotes and escapes only
texts and dates; every other kind coerces the value and writes it bare. Stores with other literal
rules bring a renderer of their own.
-/

namespace TransactionKit

/-- What a template needs to know about writing values. -/
structure Renderer where
  /-- The text of a value in a kind. A renderer only appends it: it does not depend on what was
  written before, nothing of that is changed, and nothing is written in case of a failure. -/
  render : Value → Kind → Except Error String
  /-- The text of a missing or null value. -/
  nullLiteral : String := "null"
  /-- The text that stands for a binary payload bound beside the statement. -/
  placeholder : String := "?"
  /-- How the renderer shows itself. -/
  summary : String

/-- Write a value at the end of an output. A value without a form in the kind fails before anything
is written. -/
def Renderer.write (r : Renderer) (value : Value) (kind : Kind) :
    ExceptT Error (StateM String) Unit := do
  let text ← liftM (r.render value kind)
  modify (· ++ text)

/-- The settings of the standard renderer. -/
structure RendererConfig where
  /-- The quote character of text and date literals. -/
  quote : Char := '\''
  /-- Whether backslashes inside literals are doubled as well. -/
  escapeBackslash : Bool := false
  /-- The pattern of date literals. -/
  dateFormat : String := "%Y-%m-%d %H:%M:%S"
  trueLiteral : String := "true"
  falseLiteral : String := "false"
  binaryPlaceholder : String := "?"
deriving DecidableEq, Repr, Inhabited

namespace RendererConfig

/-- How the settings quote a literal. -/
def quoting (config : RendererConfig) : Text.Quoting :=
  ⟨config.quote, config.escapeBackslash⟩

def textLiteral (config : RendererConfig) (s : String) : String :=
  String.ofList (config.quoting.encode s.toList)

/-- A moment as a literal. -/
def dateLiteral (config : RendererConfig) (t : Timestamp) : Except Error String :=
  match Calendar.Pattern.of? config.dateFormat with
  | some pattern => .ok (config.textLiteral (String.ofList (pattern.write t)))
  | none => .error (.unwritableDate config.dateFormat)

/-- The failure to give a value the form of a kind. -/
def conversion (value : Value) (kind : Kind) : Error :=
  .conversion (value.typeName ++ " " ++ value.display) kind.name

/-- A view of a value, or the failure when it has none. -/
def require {α : Type} (value : Value) (kind : Kind) (view : Option α) : Except Error α :=
  view.elim (.error (conversion value kind)) .ok

def render (config : RendererConfig) (value : Value) (kind : Kind) : Except Error String :=
  match kind with
  | .text => .ok (config.textLiteral value.display)
  | .integer => do
    let i ← require value kind (value.integer?.filter fun i => decide (IsInt32 i))
    return toString i
  | .long => do
    let i ← require value kind value.integer?
    return toString i
  | .floating => do
    let x ← require value kind (value.float?.filter Binary64.isFinite)
    return x.text
  | .date => do
    let t ← require value kind value.timestamp?
    config.dateLiteral t
  | .raw => .ok value.display
  | .boolean => do
    let b ← require value kind value.bool?
    return if b then config.trueLiteral else config.falseLiteral

/-- The settings with their values, in one line. -/
def summary (config : RendererConfig) : String :=
  "RendererConfig \x7b quote: " ++ Text.shownChar config.quote ++
    ", escape_backslash: " ++ toString config.escapeBackslash ++
    ", date_format: " ++ Text.shown config.dateFormat ++
    ", true_literal: " ++ Text.shown config.trueLiteral ++
    ", false_literal: " ++ Text.shown config.falseLiteral ++
    ", binary_placeholder: " ++ Text.shown config.binaryPlaceholder ++ " \x7d"

end RendererConfig

/-- The renderer with the given settings. -/
def Renderer.standard (config : RendererConfig) : Renderer where
  render := config.render
  placeholder := config.binaryPlaceholder
  summary := "StandardRenderer \x7b config: " ++ config.summary ++ " \x7d"

instance : Inhabited Renderer := ⟨.standard {}⟩

end TransactionKit
