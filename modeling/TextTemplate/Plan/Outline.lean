import TextTemplate.Template
import TextTemplate.Value.Display

/-!
# Outlines

An outline shows how a template, a plan or an expression is built, in one line of text that is meant
for inspection. Every constructor is named, strings are quoted, and handlers are left out.

## Main definitions

* `Value.outline`, `Expr.outline`, `Node.outline`, `Template.outline`.
* `Registry.outline`: the names of the registered tags.
-/

namespace TextTemplate

namespace Outline

/-- Outlines between two delimiters, separated by commas. -/
def enclosed (opening closing : String) (items : List String) : String :=
  opening ++ ", ".intercalate items ++ closing

/-- A constructor with its arguments. -/
def constructor (name : String) (args : List String) : String :=
  enclosed (name ++ "(") ")" args

/-- A list. -/
def list (items : List String) : String :=
  enclosed "[" "]" items

/-- A set, or the entries of a map. -/
def set (items : List String) : String :=
  enclosed "\x7b" "\x7d" items

/-- A structure with its fields. -/
def record (name : String) (fields : List (String × String)) : String :=
  enclosed (name ++ " \x7b ") " \x7d" (fields.map fun (field, text) => field ++ ": " ++ text)

end Outline

/-- The outline of a location. -/
def Location.outline (loc : Location) : String :=
  Outline.record "Location" [("line", toString loc.line), ("column", toString loc.column)]

namespace Value

mutual

/-- The outline of a value. -/
def outline : Value → String
  | .null => "None"
  | .bool b => Outline.constructor "Bool" [if b then "true" else "false"]
  | .int n => Outline.constructor "Int" [toString n.toInt]
  | .float x => Outline.constructor "Float" [floatText x]
  | .string s => Outline.constructor "String" [Quoted.string s]
  | .list items => Outline.constructor "List" [Outline.list (outlineItems items)]
  | .map entries => Outline.constructor "Map" [Outline.set (outlineEntries entries)]

/-- The outlines of the items of a list. -/
def outlineItems : List Value → List String
  | [] => []
  | v :: vs => outline v :: outlineItems vs

/-- The outlines of the entries of a map. -/
def outlineEntries : List (String × Value) → List String
  | [] => []
  | (k, v) :: es => (Quoted.string k ++ ": " ++ outline v) :: outlineEntries es

end

end Value

/-- The outline of an expression. -/
def Expr.outline : Expr → String
  | .literal v => Outline.constructor "Literal" [v.outline]
  | .lookup name => Outline.constructor "Lookup" [Quoted.string name]
  | .member base name => Outline.constructor "Attribute" [base.outline, Quoted.string name]
  | .item base key => Outline.constructor "Index" [base.outline, key.outline]

/-- The outline of a tag, given the outline of its body. -/
def TagCall.outline (call : TagCall) (body : String) : String :=
  Outline.record "TagNode"
    [("name", Quoted.string call.name),
     ("args", Outline.list (call.args.map Expr.outline)),
     ("kwargs", Outline.list (call.kwargs.map fun (k, e) =>
       Outline.constructor "" [Quoted.string k, e.outline])),
     ("body", body),
     ("location", call.location.outline)]

namespace Node

mutual

/-- The outline of a node. -/
def outline : Node → String
  | .text s => Outline.constructor "Text" [Quoted.string s]
  | .expression e location => Outline.constructor "Expr" [e.outline, location.outline]
  | .tag call body => Outline.constructor "Tag" [call.outline (outlineBody body)]

/-- The outlines of some nodes. -/
def outlineAll : List Node → List String
  | [] => []
  | node :: nodes => outline node :: outlineAll nodes

/-- The outline of the body of a tag, which may be missing. -/
def outlineBody : Option (List Node) → String
  | none => "None"
  | some nodes => Outline.constructor "Some" [Outline.list (outlineAll nodes)]

end

end Node

/-- The outline of a template. -/
def Template.outline (t : Template) : String :=
  Outline.record "Template" [("nodes", Outline.list (Node.outlineAll t.nodes))]

/-- The names of the registered tags. -/
def Registry.outline (r : Registry) : String :=
  Outline.set (r.names.map Quoted.string)

end TextTemplate
