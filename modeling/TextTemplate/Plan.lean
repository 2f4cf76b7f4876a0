import TextTemplate.Expr
import TextTemplate.Tag

/-!
# Render plans

A compiled template is a plan: a list of nodes, which are rendered in turn.

## Main definitions

* `TagCall`: a tag with its handler and the expressions of its arguments.
* `Node`: a step of a plan.
-/

namespace TextTemplate

/-- A block tag as it stands in a plan. The location is that of its opening delimiter. -/
structure TagCall where
  name : String
  handler : Handler
  args : List Expr
  kwargs : List (String × Expr)
  location : Location

/-- A step of a plan. -/
inductive Node where
  /-- Text that is written as it is. -/
  | text (s : String)
  /-- An expression whose value is written, and the location of its opening delimiter. -/
  | expression (e : Expr) (location : Location)
  /-- A tag, with the nodes of its body if it has one. -/
  | tag (call : TagCall) (body : Option (List Node))

end TextTemplate
