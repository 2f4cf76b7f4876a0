import TextTemplate.Context
import TextTemplate.Expr
import TextTemplate.Value.Display

/-!
# Evaluating expressions

An expression is evaluated against a context, which gives values to variables. A chain of accesses
is evaluated from its root: the accesses are put off until the root is known, and then applied one
after the other, each with a key that is only evaluated then. The first fault on this way counts.

Most values on this way are parts of a value that stays where it is, in the context or in the
expression. Only a character that is taken out of a string is new, and so are the parts of what is
new.

## Main definitions

* `Operand`: a value on the way, and whether it is new.
* `Operand.getMember`, `Operand.getItem`: the parts of a value, or the reason why there is none.
* `Expr.evalOnto`: evaluates an expression and applies the accesses that were put off.
* `Expr.eval`: evaluates an expression.
-/

namespace TextTemplate

/-- A value on which an access works. -/
inductive Operand where
  /-- The value belongs to the context or to the expression. -/
  | shared (v : Value)
  /-- The value was made by an access. -/
  | fresh (v : Value)

namespace Operand

/-- The value itself. -/
def value : Operand → Value
  | shared v => v
  | fresh v => v

/-- The item of a shared value at a key. A character of a string is a new value. -/
def ofItem? (base key : Value) : Option Operand :=
  match base with
  | .string _ => (base.item? key).map fresh
  | _ => (base.item? key).map shared

/-- The member of a value with a given name, which is as new as the value. -/
def member? : Operand → String → Option Operand
  | shared base, name => (base.member? name).map shared
  | fresh base, name => (base.member? name).map fresh

/-- The item of a value at a key. Nothing is shared with a new value. -/
def item? : Operand → Value → Option Operand
  | shared base, key => ofItem? base key
  | fresh base, key => (ofItem? base key).map fun item => fresh item.value

/-- The member of a value, or the reason why there is none. -/
def getMember (base : Operand) (name : String) : Except LookupError Operand :=
  match base.member? name with
  | some v => .ok v
  | none => .error (.memberNotFound name base.value.kind)

/-- The item of a value, or the reason why there is none. -/
def getItem (base : Operand) (key : Value) : Except LookupError Operand :=
  match base.item? key with
  | some v => .ok v
  | none => .error (.indexNotFound key.inspect base.value.kind)

end Operand

/-- The value of a variable, which stays in the context. -/
def Context.getVariable (ctx : Context) (name : String) : Except LookupError Operand :=
  match ctx.get? name with
  | some v => .ok (.shared v)
  | none => .error (.keyNotFound name)

namespace Expr

/-- An access that was put off until the value on which it works is known. -/
abbrev Access := Operand → Except LookupError Operand

/-- Applies accesses one after the other. -/
def applyAll (accesses : List Access) (v : Operand) : Except LookupError Operand :=
  accesses.foldlM (fun v access => access v) v

/-- Evaluates an expression and then applies the accesses that were put off. -/
def evalOnto (ctx : Context) : Expr → List Access → Except LookupError Operand
  | .literal v, accesses => applyAll accesses (.shared v)
  | .lookup name, accesses => ctx.getVariable name >>= applyAll accesses
  | .member base name, accesses => base.evalOnto ctx ((·.getMember name) :: accesses)
  | .item base key, accesses =>
    base.evalOnto ctx
      ((fun v => key.evalOnto ctx [] >>= fun k => v.getItem k.value) :: accesses)

/-- The value of an expression. -/
def eval (ctx : Context) (e : Expr) : Except LookupError Value :=
  Operand.value <$> e.evalOnto ctx []

end Expr

end TextTemplate
