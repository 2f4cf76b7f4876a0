import TextTemplate.Plan
import TextTemplate.Span
import TextTemplate.TagHeader

/-!
# Assembling plans

The plan of a template is assembled from its spans. They are read in order, with a list of the tags
whose end is awaited, and the first fault ends the assembly. A recursion that has the body of each
tag read by a call of its own keeps no such list; it comes to the same plan and to the same fault
(`Compiler.plan_eq_readNodes`).

A block is read as follows. If it bears the name that ends the innermost open tag, it ends that tag,
and nothing may follow the name. Otherwise its tag must be registered. A tag with a body is opened
unless too many tags are open already, and this is decided before its arguments are read.

## Main definitions

* `Compiler`: the registered tags and the limit on nesting.
* `Assembly`: what has been read of a template.
* `Compiler.step`: reads one span.
* `Compiler.plan`: the plan of some spans.
-/

namespace TextTemplate

/-- The registered tags, and how deep brackets within an expression and tags with bodies may nest.
-/
structure Compiler where
  registry : Registry
  maxDepth : Nat

/-- A tag whose end is awaited, and the nodes before it in the list to which it belongs, the last
one first. -/
structure OpenTag where
  call : TagCall
  before : List Node

/-- The name of the block that ends a tag. -/
def endName (name : String) : String :=
  "end" ++ name

/-- What has been read of a template: the tags whose end is awaited, the innermost one first, and
the nodes that have been read behind the opening of the innermost one, the last one first. -/
structure Assembly where
  opened : List OpenTag
  nodes : List Node

namespace Assembly

/-- Nothing has been read. -/
def empty : Assembly := ⟨[], []⟩

/-- Adds a node. -/
def add (a : Assembly) (node : Node) : Assembly :=
  { a with nodes := node :: a.nodes }

/-- Opens a tag with a body. -/
def enter (a : Assembly) (call : TagCall) : Assembly :=
  ⟨⟨call, a.nodes⟩ :: a.opened, []⟩

/-- Whether a block of this name ends the innermost open tag. -/
def isEndedBy (a : Assembly) (name : String) : Bool :=
  match a.opened with
  | [] => false
  | tag :: _ => name = endName tag.call.name

/-- Closes the innermost open tag: what has been read behind its opening becomes its body. -/
def leave (a : Assembly) : Assembly :=
  match a.opened with
  | [] => a
  | tag :: outer => ⟨outer, .tag tag.call (some a.nodes.reverse) :: tag.before⟩

/-- The plan that has been read, if no tag is open. -/
def finish (a : Assembly) : Except Error (List Node) :=
  match a.opened with
  | [] => .ok a.nodes.reverse
  | tag :: _ =>
    .error (.grammar (.unclosedTag tag.call.name (endName tag.call.name)) tag.call.location)

end Assembly

namespace Compiler

/-- How deep brackets and tags may nest unless a compiler says otherwise. -/
def defaultMaxDepth : Nat := 100

/-- The compiler with some registered tags and the default limit on nesting. -/
def ofRegistry (registry : Registry) : Compiler :=
  ⟨registry, defaultMaxDepth⟩

/-- The compiler without tags. -/
def default : Compiler :=
  ofRegistry .empty

/-- The compiler with one more tag, in place of the one that had its name. -/
def withTag (c : Compiler) (name : String) (handler : Handler) : Compiler :=
  { c with registry := c.registry.insert name handler }

/-- Whether a name is that of the end of a registered tag with a body. -/
def endsTag (c : Compiler) (name : String) : Bool :=
  match name.toList with
  | 'e' :: 'n' :: 'd' :: base =>
    match c.registry.get? (String.ofList base) with
    | some handler => handler.hasBody
    | none => false
  | _ => false

/-- Why a block whose tag is not registered is refused. -/
def unregistered (c : Compiler) (name : String) : GrammarError :=
  if c.endsTag name then .unexpectedEndTag name else .unknownTag name

/-- Reads a block whose name has been read and which ends no open tag. -/
def openBlock (c : Compiler) (a : Assembly) (location : Location) (name : Token) :
    Scan Assembly :=
  match c.registry.get? name.text with
  | none => Stream.fail (c.unregistered name.text) name
  | some handler =>
    if handler.hasBody ∧ c.maxDepth ≤ a.opened.length then
      Stream.fail (.nestingTooDeep c.maxDepth) name
    else do
      let header ← TagHeader.parseArguments c.maxDepth name.text
      let call : TagCall := ⟨header.name, handler, header.args, header.kwargs, location⟩
      return if handler.hasBody then a.enter call else a.add (.tag call none)

/-- Reads a block. -/
def block (c : Compiler) (a : Assembly) (location : Location) : Scan Assembly := do
  let name ← TagHeader.parseName
  if a.isEndedBy name.text then
    Stream.expectEnd
    return a.leave
  else c.openBlock a location name

/-- Reads an expression that is the whole of a marker. -/
def wholeExpression (c : Compiler) : Scan Expr := do
  let e ← Expr.parse c.maxDepth
  Stream.expectEnd
  return e

/-- Runs a reader on the content of a span. -/
def readSpan {α : Type} (reader : Scan α) (span : Span) : Except Error α :=
  match reader (Stream.ofContent span.content span.contentLocation) with
  | .ok a _ => .ok a
  | .error err _ => .error err

/-- Reads a span. -/
def step (c : Compiler) (a : Assembly) (span : Span) : Except Error Assembly :=
  match span.kind with
  | .text => .ok (a.add (.text span.content))
  | .marker .comment => .ok a
  | .marker .expression => do
    return a.add (.expression (← readSpan c.wholeExpression span) span.location)
  | .marker .block => readSpan (c.block a span.location) span

/-- The plan of some spans. -/
def plan (c : Compiler) (spans : List Span) : Except Error (List Node) := do
  (← spans.foldlM c.step .empty).finish

end Compiler

end TextTemplate
