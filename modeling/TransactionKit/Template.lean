import TransactionKit.Template.Descent
import TransactionKit.Template.Rendering

/-!
Templates and their compilers. A compiler holds everything that is fixed before a template is
known: the options of the reader, the renderer and the rule for calls. A compiled template is
a tree with the text it was read from and the renderer of its compiler; rendering it never changes
it.
-/

namespace TransactionKit

/-- A template ready to be rendered. -/
structure Template where
  /-- The text the tree was read from. -/
  source : String
  root : Node
  renderer : Renderer
deriving Inhabited

namespace Template

/-- The statement for the given values: its text or the first failure, and the sink after it. -/
def render (t : Template) (values : String → Option Value) (sink : Sink) :
    Except Error String × Sink :=
  (t.root.render ⟨t.renderer, values⟩).run.run sink

/-- The keys the template needs values for, in the order of first occurrence. -/
def parameterNames (t : Template) : List String :=
  t.root.parameterKeys

/-- The template in one line. -/
def summary (t : Template) : String :=
  "CompiledTemplate \x7b source: " ++ Text.shown t.source ++ ", root: " ++ t.root.summary ++ " \x7d"

end Template

/-- Reads templates. -/
structure TemplateCompiler where
  options : TemplateOptions := {}
  renderer : Renderer := .standard {}
  callRule? : Option CallRule := none
deriving Inhabited

namespace TemplateCompiler

/-- The compiler that keeps characters outside the grammar as text. -/
def lenient : TemplateCompiler := {}

/-- The compiler that refuses characters outside the grammar. -/
def strict : TemplateCompiler :=
  { options := { strict := true } }

/-- The tree of a template. -/
def parse (compiler : TemplateCompiler) (text : String) : Except Error Node :=
  Node.parse compiler.options (compiler.callRule?.getD .plain) text

/-- The template that a text denotes. -/
def compile (compiler : TemplateCompiler) (text : String) : Except Error Template := do
  return ⟨text, ← compiler.parse text, compiler.renderer⟩

/-- A template compiles exactly if it can be read. -/
theorem compile_eq_ok_iff {compiler : TemplateCompiler} {text : String} {template : Template} :
    compiler.compile text = .ok template ↔
      ∃ tree, compiler.parse text = .ok tree ∧ template = ⟨text, tree, compiler.renderer⟩ := by
  rw [compile]
  cases compiler.parse text with
  | error e =>
    constructor
    · intro compiled
      cases compiled
    · rintro ⟨tree, parsed, -⟩
      cases parsed
  | ok tree =>
    constructor
    · intro compiled
      cases compiled
      exact ⟨tree, rfl, rfl⟩
    · rintro ⟨_, parsed, rfl⟩
      cases parsed
      rfl

/-- The compiler in one line. -/
def summary (compiler : TemplateCompiler) : String :=
  "TemplateCompiler \x7b options: CompilerOptions \x7b strict: " ++
    toString compiler.options.strict ++ ", parameters: " ++
    toString compiler.options.parameters ++ " \x7d, renderer: " ++ compiler.renderer.summary ++
    ", rewriter: " ++ toString compiler.callRule?.isSome ++ " \x7d"

end TemplateCompiler

end TransactionKit
