import TransactionKit.Template.Node
import TransactionKit.Template.Renderer

/-!
Rendering a template: its text with every parameter replaced by the text of its value. Binary
values are not written; they go to a sink in the order in which they occur and a placeholder
stands for each. The first failure ends a rendering, with the payloads met before it already in
the sink.
-/

namespace TransactionKit

/-- A place for binary payloads: none, or the payloads bound so far in order. -/
abbrev Sink := Option (List (List UInt8))

/-- A rendering step may fail, and changes the sink in either case. -/
abbrev Rendering (α : Type) := ExceptT Error (StateM Sink) α

/-- What a rendering reads besides the tree. -/
structure RenderContext where
  renderer : Renderer
  /-- The value bound to a key. -/
  values : String → Option Value

namespace Rendering

/-- Bind a payload, if there is a sink. -/
def bindPayload (p : Parameter) (payload : List UInt8) : Rendering Unit := do
  match ← (get : Rendering Sink) with
  | some payloads => set (some (payloads ++ [payload]) : Sink)
  | none =>
    throw (.unsupportedContext ("parameter " ++ Text.shown p.key ++
      " holds binary content but the render context has no binary sink"))

mutual

/-- The text of a value of a parameter. The elements of a collection are rendered one by one, each
in the kind that the parameter names or in its own. -/
def value (r : Renderer) (p : Parameter) : Value → Rendering String
  | .null => pure r.nullLiteral
  | .array items => elements r p items
  | .bytes payload => do
    bindPayload p payload
    return r.placeholder
  | scalar => liftM (r.render scalar (p.kind?.getD (scalar.defaultKind?.getD .text)))

/-- The texts of the elements of a collection with the separator of the parameter between them. -/
def elements (r : Renderer) (p : Parameter) : List Value → Rendering String
  | [] => pure ""
  | [item] => value r p item
  | item :: next :: items => do
    let head ← value r p item
    return head ++ p.separator ++ (← elements r p (next :: items))

end

def parameter (context : RenderContext) (p : Parameter) : Rendering String :=
  value context.renderer p ((context.values p.key).getD .null)

end Rendering

namespace Node

open Rendering

mutual

def render (context : RenderContext) : Node → Rendering String
  | literal text => pure text
  | number text => pure text
  | word text => pure text
  | sequence children => renderAll context children
  | group children => do
    return "(" ++ (← renderAll context children) ++ ")"
  | quoted text delimiter =>
    pure (String.ofList (Text.Quoting.encode ⟨delimiter, false⟩ text.toList))
  | call name args => do
    return name ++ "(" ++ (← renderArgs context args) ++ ")"
  | parameter p => Rendering.parameter context p

/-- The texts of nodes one after another. -/
def renderAll (context : RenderContext) : List Node → Rendering String
  | [] => pure ""
  | node :: nodes => do
    let head ← node.render context
    return head ++ (← renderAll context nodes)

/-- The texts of arguments with commas between them. -/
def renderArgs (context : RenderContext) : List Node → Rendering String
  | [] => pure ""
  | [arg] => arg.render context
  | arg :: next :: args => do
    let head ← arg.render context
    return head ++ "," ++ (← renderArgs context (next :: args))

end

end Node

end TransactionKit
