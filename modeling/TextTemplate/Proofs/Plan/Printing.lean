import TextTemplate.Proofs.Plan.Matching
import TextTemplate.Proofs.Stream.Spaced
import TextTemplate.Proofs.TagHeader.Grammar

/-!
# Writing plans

A plan is written as a template: text as it is, an expression between the delimiters of an
expression marker, and a tag as a block, which is followed by the body and a block with the name of
its end if the tag has one. Within a marker the tokens are separated by single blanks.

Not every plan can be written. Literal text must not look like a marker or run into other literal
text, a string must fit between quotes and must not close its marker, and a block in a body must not
bear the name of the end of that body. A plan that meets these conditions is *writable*.

## Main definitions

* `Quoting`: the choice of a quote for each string.
* `Expr.words`, `TagCall.words`: the words of an expression and of a tag.
* `Node.written`, `Node.writtenAll`: the text of nodes.
* `Node.placedAll`: the nodes with the locations that they have in that text.
* `Compiler.Writable`: the plans that can be written.
-/

namespace TextTemplate

namespace Lexeme

/-- A text can be enclosed in a pair of the given character. -/
def CanEnclose (quote : Char) (cs : List Char) : Prop :=
  isQuote quote = true ∧ Quotable quote cs

end Lexeme

/-- A choice of a quote for each string, which can enclose the string if any quote can. -/
structure Quoting where
  quote : String → Char
  canEnclose : ∀ s, (∃ q, Lexeme.CanEnclose q s.toList) → Lexeme.CanEnclose (quote s) s.toList

/-- Double quotes, unless only single quotes can enclose the string. -/
def Quoting.preferDouble : Quoting where
  quote s := if Lexeme.Quotable '"' s.toList then '"' else '\''
  canEnclose := by
    rintro s ⟨q, hquote, hquotable⟩
    by_cases hdouble : Lexeme.Quotable '"' s.toList
    · rw [if_pos hdouble]
      exact ⟨by decide, hdouble⟩
    · rw [if_neg hdouble]
      rcases Lexeme.isQuote_iff.1 hquote with rfl | rfl
      · exact ⟨by decide, hquotable⟩
      · exact absurd hquotable hdouble

/-! ### Words -/

namespace Word

/-- The word of a literal. Only integers and strings have one. -/
def ofLiteral (q : Quoting) : Value → List Word
  | .int n => [(.number, toString n.toInt)]
  | .string s => [(.string, String.ofList (q.quote s :: (s.toList ++ [q.quote s])))]
  | _ => []

end Word

/-- The words of an expression. -/
def Expr.words (q : Quoting) : Expr → List Word
  | .literal v => Word.ofLiteral q v
  | .lookup name => [.ofName name]
  | .member base name => base.words q ++ [.ofOperator .dot, .ofName name]
  | .item base key =>
    base.words q ++ .ofOperator .leftBracket :: (key.words q ++ [.ofOperator .rightBracket])

/-- The words of a keyword argument. -/
def Word.ofKwarg (q : Quoting) (kwarg : String × Expr) : List Word :=
  .ofName kwarg.1 :: .ofOperator .equal :: kwarg.2.words q

/-- The words of a tag. -/
def TagCall.words (q : Quoting) (call : TagCall) : List Word :=
  .ofName call.name :: (call.args.flatMap (Expr.words q) ++ call.kwargs.flatMap (Word.ofKwarg q))

/-! ### Text -/

/-- A marker with some words. -/
def Marker.enclose (m : Marker) (words : List Word) : List Char :=
  m.opener ++ (Stream.spaced words ++ m.closer)

/-- The block that ends a tag. -/
def TagCall.closing (call : TagCall) : List Char :=
  Marker.block.enclose [.ofName (endName call.name)]

namespace Node

mutual

/-- The text of a node. -/
def written (q : Quoting) : Node → List Char
  | .text s => s.toList
  | .expression e _ => Marker.expression.enclose (e.words q)
  | .tag call body => Marker.block.enclose (call.words q) ++ writtenBody q call body

/-- The text of some nodes. -/
def writtenAll (q : Quoting) : List Node → List Char
  | [] => []
  | node :: nodes => written q node ++ writtenAll q nodes

/-- The text of the body of a tag and its end. -/
def writtenBody (q : Quoting) (call : TagCall) : Option (List Node) → List Char
  | none => []
  | some nodes => writtenAll q nodes ++ call.closing

end

mutual

/-- A node with the locations that it has if it is written at the given one. -/
def placed (q : Quoting) (loc : Location) : Node → Node
  | .text s => .text s
  | .expression e _ => .expression e loc
  | .tag call body =>
    .tag { call with location := loc }
      (placedBody q (loc.advance (Marker.block.enclose (call.words q))) body)

/-- Some nodes with the locations that they have if they are written at the given one. -/
def placedAll (q : Quoting) (loc : Location) : List Node → List Node
  | [] => []
  | node :: nodes => placed q loc node :: placedAll q (loc.advance (written q node)) nodes

/-- A body with the locations that it has if it is written at the given one. -/
def placedBody (q : Quoting) (loc : Location) : Option (List Node) → Option (List Node)
  | none => none
  | some nodes => some (placedAll q loc nodes)

end

mutual

/-- A node without its locations. -/
def unplaced : Node → Node
  | .text s => .text s
  | .expression e _ => .expression e .start
  | .tag call body => .tag { call with location := .start } (unplacedBody body)

/-- Some nodes without their locations. -/
def unplacedAll : List Node → List Node
  | [] => []
  | node :: nodes => unplaced node :: unplacedAll nodes

/-- A body without its locations. -/
def unplacedBody : Option (List Node) → Option (List Node)
  | none => none
  | some nodes => some (unplacedAll nodes)

end

mutual

theorem unplaced_placed (q : Quoting) (loc : Location) :
    ∀ node : Node, (placed q loc node).unplaced = node.unplaced
  | .text s => rfl
  | .expression e _ => rfl
  | .tag call body => by
    rw [placed, unplaced, unplacedBody_placedBody q _ body, unplaced]

theorem unplacedAll_placedAll (q : Quoting) (loc : Location) :
    ∀ nodes : List Node, unplacedAll (placedAll q loc nodes) = unplacedAll nodes
  | [] => rfl
  | node :: nodes => by
    rw [placedAll, unplacedAll, unplaced_placed q loc node, unplacedAll_placedAll q _ nodes,
      unplacedAll]

theorem unplacedBody_placedBody (q : Quoting) (loc : Location) :
    ∀ body : Option (List Node), unplacedBody (placedBody q loc body) = unplacedBody body
  | none => rfl
  | some nodes => by
    rw [placedBody, unplacedBody, unplacedAll_placedAll q loc nodes, unplacedBody]

end

variable (q : Quoting) (loc : Location) (call : TagCall) (body nodes : List Node)

theorem writtenAll_single : writtenAll q (.tag call none :: nodes) =
    Marker.block.enclose (call.words q) ++ writtenAll q nodes := by
  rw [writtenAll, written, writtenBody, List.append_nil]

theorem placedAll_single : placedAll q loc (.tag call none :: nodes) =
    .tag { call with location := loc } none ::
      placedAll q (loc.advance (Marker.block.enclose (call.words q))) nodes := by
  rw [placedAll, placed, placedBody, written, writtenBody, List.append_nil]

/-- A tag with a body is written as its block, the body and the block that ends it. -/
theorem writtenAll_enclosing : writtenAll q (.tag call (some body) :: nodes) =
    Marker.block.enclose (call.words q) ++
      (writtenAll q body ++ (call.closing ++ writtenAll q nodes)) := by
  simp only [writtenAll, written, writtenBody, List.append_assoc]

/-- The body of a tag stands behind its block, and what follows stands behind its end. -/
theorem placedAll_enclosing : placedAll q loc (.tag call (some body) :: nodes) =
    let inside := loc.advance (Marker.block.enclose (call.words q))
    .tag { call with location := loc } (some (placedAll q inside body)) ::
      placedAll q ((inside.advance (writtenAll q body)).advance call.closing) nodes := by
  simp only [placedAll, placed, placedBody, written, writtenBody, Location.advance_append]

end Node

/-! ### What can be written -/

/-- A value has a literal, which does not close the marker. -/
def Value.Writable (m : Marker) : Value → Prop
  | .int n => 0 ≤ n.toInt
  | .string s => (∃ q, Lexeme.CanEnclose q s.toList) ∧ ¬ m.closer <:+: s.toList
  | _ => False

/-- An expression can be written in a marker: its names are names, and its literals can be written.
-/
def Expr.Writable (m : Marker) : Expr → Prop
  | .literal v => v.Writable m
  | .lookup name => Lexeme.IsName name.toList
  | .member base name => base.Writable m ∧ Lexeme.IsName name.toList
  | .item base key => base.Writable m ∧ key.Writable m

namespace Compiler

/-- An expression can be written in a marker and is not nested too deep. -/
structure Accepts (c : Compiler) (m : Marker) (e : Expr) : Prop where
  writable : e.Writable m
  depth_le : e.bracketDepth ≤ c.maxDepth

/-- A tag can be written: it is registered, and so can its name and its arguments. -/
structure AcceptsCall (c : Compiler) (call : TagCall) : Prop where
  isName : Lexeme.IsName call.name.toList
  registered : c.registry.get? call.name = some call.handler
  args : ∀ e ∈ call.args, c.Accepts .block e
  kwargs : ∀ kwarg ∈ call.kwargs, Lexeme.IsName kwarg.1.toList ∧ c.Accepts .block kwarg.2

/-- Some nodes can be written inside the bodies of some tags, whose names are given with the
innermost one first. -/
inductive Writable (c : Compiler) : List String → List Node → Prop where
  | nil {opened : List String} : Writable c opened []
  | text {opened : List String} {s : String} {nodes : List Node} (hne : s ≠ "")
      (hbrace : '{' ∉ s.toList) (hapart : ∀ t, nodes.head? ≠ some (.text t))
      (hrest : Writable c opened nodes) : Writable c opened (.text s :: nodes)
  | expression {opened : List String} {e : Expr} {loc : Location} {nodes : List Node}
      (he : c.Accepts .expression e) (hrest : Writable c opened nodes) :
      Writable c opened (.expression e loc :: nodes)
  /-- A tag without a body. -/
  | single {opened : List String} {call : TagCall} {nodes : List Node} (hcall : c.AcceptsCall call)
      (hopen : ∀ x ∈ opened.head?, call.name ≠ endName x) (hbody : call.handler.hasBody = false)
      (hrest : Writable c opened nodes) : Writable c opened (.tag call none :: nodes)
  /-- A tag with a body. -/
  | enclosing {opened : List String} {call : TagCall} {body nodes : List Node}
      (hcall : c.AcceptsCall call) (hopen : ∀ x ∈ opened.head?, call.name ≠ endName x)
      (hbody : call.handler.hasBody = true) (hdepth : opened.length < c.maxDepth)
      (hinner : Writable c (call.name :: opened) body) (hrest : Writable c opened nodes) :
      Writable c opened (.tag call (some body) :: nodes)

end Compiler

end TextTemplate
