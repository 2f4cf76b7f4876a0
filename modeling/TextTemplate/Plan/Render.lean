import TextTemplate.Expr.Eval
import TextTemplate.Plan

/-!
# Rendering plans

The nodes of a plan are rendered in order, and the first failure ends the rendering. An expression
that cannot be evaluated is reported at the location of the node to which it belongs. The arguments
of a tag are evaluated before its handler is run, the positional ones first.

## Main definitions

* `TagCall.evalArgs`, `TagCall.evalKwargs`: the values of the arguments of a tag.
* `Node.render`, `Node.renderAll`: the rendering of a node and of a plan.
* `Node.renderToString`: the output of a plan.
-/

namespace TextTemplate

/-- The value of an expression that belongs to the node at a location. -/
def Expr.evalAt (ctx : Context) (location : Location) (e : Expr) : Except Error Value :=
  match e.eval ctx with
  | .ok v => .ok v
  | .error cause => .error (.lookup cause location)

namespace TagCall

/-- The values of the positional arguments. -/
def evalArgs (ctx : Context) (call : TagCall) : Except Error (List Value) :=
  call.args.mapM (Expr.evalAt ctx call.location)

/-- The values of the keyword arguments. -/
def evalKwargs (ctx : Context) (call : TagCall) : Except Error (List (String × Value)) :=
  call.kwargs.mapM fun (k, e) => do return (k, ← e.evalAt ctx call.location)

/-- Runs the handler of a tag, given the rendering of its body. -/
def render (ctx : Context) (call : TagCall) (body : Option (Context → Rendering Unit)) :
    Rendering Unit := do
  let args ← MonadExcept.ofExcept (call.evalArgs ctx)
  let kwargs ← MonadExcept.ofExcept (call.evalKwargs ctx)
  call.handler.render
    { name := call.name, location := call.location, args, kwargs, context := ctx, body }

end TagCall

namespace Node

mutual

/-- Renders a node. -/
def render : Node → Context → Rendering Unit
  | .text s, _ => emit s
  | .expression e location, ctx => do
    emit (← MonadExcept.ofExcept (e.evalAt ctx location)).display
  | .tag call body, ctx => call.render ctx (renderBody body)

/-- Renders nodes in order. -/
def renderAll : List Node → Context → Rendering Unit
  | [], _ => pure ()
  | node :: nodes, ctx => do
    render node ctx
    renderAll nodes ctx

/-- The rendering of a body, if there is one. -/
def renderBody : Option (List Node) → Option (Context → Rendering Unit)
  | none => none
  | some nodes => some fun ctx => renderAll nodes ctx

end

/-- The output of a plan. -/
def renderToString (nodes : List Node) (ctx : Context) : Except Error String :=
  match renderAll nodes ctx "" with
  | .ok _ out => .ok out
  | .error err _ => .error err

end Node

end TextTemplate
