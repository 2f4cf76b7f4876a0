import TextTemplate.Proofs.Plan.RoundTrip

/-!
# Texts as templates

Every text is the output of some template, whatever delimiters it holds. In the source of this
template each opening brace of the text is an expression of its own, a string with nothing but the
brace, and all else stands as it is. Since no other brace is left that could open a marker, the
source is cut where the expressions were put in, even if what follows one of them begins with
further closing braces.

The source is the written form of a plan, and that is how it is compiled. The plan has the stretches
between the braces as literal text and the braces as expressions.

## Main definitions

* `escapeBraces`: the source in which the opening braces of a text are expressions.
* `Node.SpellsOut`: nodes that put out a text in this way.

## Main results

* `Node.exists_spellsOut`: there are such nodes for every text.
* `Node.SpellsOut.writtenAll_eq`, `Node.SpellsOut.renderAll_eq`: what the source of these nodes is
  and what they put out.
* `Compiler.render_escapeBraces`: the source compiles and is rendered as the text.
-/

namespace TextTemplate

/-- The expression that stands for an opening brace, in its marker. -/
def escapedBrace : List Char :=
  "\x7b\x7b '\x7b' \x7d\x7d".toList

/-- How a character is written so that it opens no marker. -/
def escapeBrace (c : Char) : List Char :=
  if c = '{' then escapedBrace else [c]

/-- The source text in which every opening brace of a text is an expression. -/
def escapeBraces (text : String) : String :=
  String.ofList (text.toList.flatMap escapeBrace)

theorem flatMap_escapeBrace {cs : List Char} (h : '{' ∉ cs) : cs.flatMap escapeBrace = cs := by
  induction cs with
  | nil => rfl
  | cons c cs ih =>
    rw [List.mem_cons, not_or] at h
    rw [List.flatMap_cons, escapeBrace, if_neg (Ne.symm h.1), ih h.2, List.singleton_append]

/-- A choice of quotes with another quote for one string. -/
def Quoting.withQuote (q : Quoting) (s : String) (quote : Char)
    (h : Lexeme.CanEnclose quote s.toList) : Quoting where
  quote t := if t = s then quote else q.quote t
  canEnclose t ht := by
    split
    · next heq => rwa [heq]
    · exact q.canEnclose t ht

/-- A choice of quotes with single quotes for the brace. -/
def Quoting.singleForBrace : Quoting :=
  Quoting.preferDouble.withQuote "\x7b" '\'' ⟨by decide, by decide⟩

/-- The expression that has an opening brace as its value. -/
def Expr.brace : Expr :=
  .literal (.string "\x7b")

namespace Node

variable {nodes : List Node} {cs : List Char}

/-- Some nodes put out a text: its opening braces as expressions, and the stretches between them as
literal text. -/
inductive SpellsOut : List Node → List Char → Prop where
  | nil : SpellsOut [] []
  | text {s : String} {nodes : List Node} {cs : List Char} (hne : s ≠ "") (hbrace : '{' ∉ s.toList)
      (hapart : ∀ t, nodes.head? ≠ some (.text t)) (hrest : SpellsOut nodes cs) :
      SpellsOut (.text s :: nodes) (s.toList ++ cs)
  | brace {loc : Location} {nodes : List Node} {cs : List Char} (hrest : SpellsOut nodes cs) :
      SpellsOut (.expression .brace loc :: nodes) ('{' :: cs)

/-- A character other than an opening brace belongs to the literal text behind it. -/
theorem SpellsOut.exists_cons {c : Char} (hc : c ≠ '{') (h : SpellsOut nodes cs) :
    ∃ nodes', SpellsOut nodes' (c :: cs) := by
  have halone (hapart : ∀ t, nodes.head? ≠ some (.text t)) :
      SpellsOut (.text (String.ofList [c]) :: nodes) (c :: cs) := by
    have hcons := SpellsOut.text (s := String.ofList [c]) (by simp) (by simpa using hc.symm) hapart
      h
    rwa [String.toList_ofList, List.singleton_append] at hcons
  cases h with
  | nil => exact ⟨_, halone (by simp)⟩
  | brace hrest => exact ⟨_, halone (by simp)⟩
  | @text s nodes cs hne hbrace hapart hrest =>
    have hcons := SpellsOut.text (s := String.ofList (c :: s.toList)) (by simp)
      (by simp [hc.symm, hbrace]) hapart hrest
    rw [String.toList_ofList, List.cons_append] at hcons
    exact ⟨_, hcons⟩

/-- Every text is put out by some nodes. -/
theorem exists_spellsOut (cs : List Char) : ∃ nodes, SpellsOut nodes cs := by
  induction cs with
  | nil => exact ⟨[], .nil⟩
  | cons c cs ih =>
    obtain ⟨nodes, hnodes⟩ := ih
    by_cases hc : c = '{'
    · rw [hc]
      exact ⟨.expression .brace .start :: nodes, .brace hnodes⟩
    · exact hnodes.exists_cons hc

namespace SpellsOut

/-- The source of the nodes is the text with its braces escaped. -/
theorem writtenAll_eq (h : SpellsOut nodes cs) :
    writtenAll .singleForBrace nodes = cs.flatMap escapeBrace := by
  induction h with
  | nil => rfl
  | text _ hbrace _ _ ih =>
    rw [writtenAll, written, ih, List.flatMap_append, flatMap_escapeBrace hbrace]
  | brace _ ih =>
    rw [writtenAll, ih]
    rfl

/-- The nodes can be written, whatever the limit on nesting is. -/
theorem writable (h : SpellsOut nodes cs) (c : Compiler) : c.Writable [] nodes := by
  induction h with
  | nil => exact .nil
  | text hne hbrace hapart _ ih => exact .text hne hbrace hapart ih
  | brace _ ih =>
    have hbrace : Expr.brace.Writable .expression := ⟨⟨'\'', by decide, by decide⟩, by decide⟩
    exact .expression ⟨hbrace, Nat.zero_le _⟩ ih

/-- The nodes put out the text wherever they are written. -/
theorem placedAll (h : SpellsOut nodes cs) (q : Quoting) (loc : Location) :
    SpellsOut (placedAll q loc nodes) cs := by
  induction h generalizing loc with
  | nil => exact .nil
  | @text s nodes cs hne hbrace hapart _ ih =>
    refine .text hne hbrace (fun t ht => ?_) (ih _)
    cases nodes with
    | nil => cases ht
    | cons node nodes =>
      cases node with
      | text t => exact hapart t rfl
      | expression | tag => cases ht
  | brace _ ih => exact .brace (ih _)

/-- The nodes put out the text, behind what has been put out and in every context. -/
theorem renderAll_eq (h : SpellsOut nodes cs) (ctx : Context) (out : String) :
    renderAll nodes ctx out = .ok () (out ++ String.ofList cs) := by
  induction h generalizing out with
  | nil => simp [renderAll, pure, EStateM.pure]
  | text _ _ _ _ ih =>
    rw [renderAll, render, String.ofList_append, String.ofList_toList, ← String.append_assoc, ← ih]
    rfl
  | @brace loc nodes cs _ ih =>
    have hcons : String.ofList ('{' :: cs) = "\x7b" ++ String.ofList cs := by
      rw [← List.singleton_append, String.ofList_append]
    rw [renderAll, render, hcons, ← String.append_assoc, ← ih]
    rfl

end SpellsOut

end Node

/-- Every text is the output of a template: if its opening braces are written as expressions, then
the source compiles, whatever tags are registered and even if nothing may nest, and it is rendered
as the text in every context. -/
theorem Compiler.render_escapeBraces (c : Compiler) (text : String) :
    ∃ t, c.compile (escapeBraces text) = .ok t ∧ ∀ ctx, t.render ctx = .ok text := by
  obtain ⟨nodes, hnodes⟩ := Node.exists_spellsOut text.toList
  have hplan := plan_writtenAll .singleForBrace (hnodes.writable c)
  rw [hnodes.writtenAll_eq] at hplan
  refine ⟨_, compile_eq_ok_iff_plan.2 hplan, fun ctx => ?_⟩
  have hrender := (hnodes.placedAll .singleForBrace .start).renderAll_eq ctx ""
  rw [Template.render, Node.renderToString, hrender, String.empty_append, String.ofList_toList]

/-- The closing brace behind an escaped brace does not belong to its marker. -/
example : escapeBraces "f\x7b\x7d" = "f\x7b\x7b '\x7b' \x7d\x7d\x7d" := by decide

end TextTemplate
