import TextTemplate.Plan.Assembly
import TextTemplate.Plan.Render

/-!
# Templates

A template is compiled from its source text once and can then be rendered against any number of
contexts.

## Main definitions

* `Template`: a compiled template.
* `Compiler.compile`: compiles a template.
* `Template.render`: the output of a template in a context.
-/

namespace TextTemplate

/-- A compiled template. -/
structure Template where
  nodes : List Node

/-- Compiles a template. -/
def Compiler.compile (c : Compiler) (source : String) : Except Error Template := do
  return ⟨← c.plan (Span.cut source)⟩

/-- The output of a template in a context. -/
def Template.render (t : Template) (ctx : Context) : Except Error String :=
  Node.renderToString t.nodes ctx

end TextTemplate
