import TextTemplate.Context

/-!
# Tags

What a block tag puts out is up to its handler. A handler is registered under the name of the tag,
and it says whether the tag has a body, which extends to the block named `end…`. When the tag is
rendered, the handler is given the values of the arguments and may render the body as often as it
likes, against any context.

## Main definitions

* `Rendering`: computations that write to an output and may fail. What they have written stays
  written if they fail.
* `Invocation`: what a handler is given.
* `Handler`: how a tag is rendered.
* `Registry`: the handlers by the names of their tags.
-/

namespace TextTemplate

/-- Computations that write to an output. If they fail, what they have written stays written. -/
abbrev Rendering := EStateM Error String

/-- Writes a text. -/
def emit (text : String) : Rendering Unit := fun out =>
  .ok () (out ++ text)

/-- A tag that is being rendered: its name and location, the values of its arguments, the context in
which it stands, and the rendering of its body, if it has one. -/
structure Invocation where
  name : String
  location : Location
  args : List Value
  kwargs : List (String × Value)
  context : Context
  body : Option (Context → Rendering Unit)

namespace Invocation

/-- The value of a keyword argument, the first one with the keyword. -/
def kwarg? (tag : Invocation) (keyword : String) : Option Value :=
  tag.kwargs.lookup keyword

/-- Whether the tag has a body. -/
def hasBody (tag : Invocation) : Bool :=
  tag.body.isSome

/-- Renders the body against a context. Nothing is written if there is no body. -/
def renderBodyWith (tag : Invocation) (ctx : Context) : Rendering Unit :=
  match tag.body with
  | some body => body ctx
  | none => pure ()

/-- Renders the body against the context in which the tag stands. -/
def renderBody (tag : Invocation) : Rendering Unit :=
  tag.renderBodyWith tag.context

/-- Fails for a reason of the handler's own. -/
def fail {α : Type} (tag : Invocation) (reason : String) : Rendering α :=
  throw (.tag tag.name reason)

end Invocation

/-- How a tag is rendered, and whether it has a body. -/
structure Handler where
  hasBody : Bool
  render : Invocation → Rendering Unit

/-- The handlers by the names of their tags. -/
abbrev Registry := Bindings Handler

end TextTemplate
