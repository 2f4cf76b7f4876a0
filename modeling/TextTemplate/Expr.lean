import TextTemplate.Value

/-!
# Expressions

An expression is a literal or the name of a variable, followed by any number of accesses: `.name`
takes a member, and `[key]` takes the item at a key, which is an expression itself.

## Main definitions

* `Expr`: expressions.
-/

namespace TextTemplate

/-- An expression. -/
inductive Expr where
  | literal (v : Value)
  /-- A variable. -/
  | lookup (name : String)
  /-- The member of a value with a given name. -/
  | member (base : Expr) (name : String)
  /-- The item of a value at a key. -/
  | item (base key : Expr)

end TextTemplate
