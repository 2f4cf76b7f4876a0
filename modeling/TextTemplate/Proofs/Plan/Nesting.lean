import TextTemplate.Proofs.Plan.Limit
import TextTemplate.Proofs.Plan.RoundTrip

/-!
# How deep plans nest

The limit bounds two things: how deep brackets nest in an expression, and how deep tags with bodies
nest in the plan. A compiler refuses at the opening bracket or at the tag that is the first one too
deep, so it accepts exactly the plans whose depth is within its limit, and the limit decides about
nothing else.

## Main definitions

* `Node.nestingAll`: how deep tags with bodies nest in some nodes.
* `Node.expressionsAll`: the expressions of some nodes.
* `Node.depthAll`: the depth that is limited.

## Main results

* `Compiler.Matches.within`: what is matched is within the limit.
* `Compiler.Matches.of_within`: what is within a limit is matched with that limit.
* `Compiler.compile_of_limit_le`: compiling with a lower limit.
-/

namespace TextTemplate

/-! ### Depth -/

/-- The expressions of the arguments of a tag. -/
def TagHeader.expressions (header : TagHeader) : List Expr :=
  header.args ++ header.kwargs.map Prod.snd

/-- The expressions of the arguments of a tag. -/
def TagCall.expressions (call : TagCall) : List Expr :=
  call.args ++ call.kwargs.map Prod.snd

namespace Node

mutual

/-- How deep tags with bodies nest in a node. -/
def nesting : Node → Nat
  | .text _ => 0
  | .expression _ _ => 0
  | .tag _ body => nestingBody body

/-- How deep tags with bodies nest in some nodes. -/
def nestingAll : List Node → Nat
  | [] => 0
  | node :: nodes => max (nesting node) (nestingAll nodes)

/-- How deep tags with bodies nest in a tag with the given body. -/
def nestingBody : Option (List Node) → Nat
  | none => 0
  | some nodes => nestingAll nodes + 1

end

mutual

/-- The expressions of a node, with those of the arguments of tags. -/
def expressions : Node → List Expr
  | .text _ => []
  | .expression e _ => [e]
  | .tag call body => call.expressions ++ expressionsBody body

/-- The expressions of some nodes. -/
def expressionsAll : List Node → List Expr
  | [] => []
  | node :: nodes => expressions node ++ expressionsAll nodes

/-- The expressions of a body. -/
def expressionsBody : Option (List Node) → List Expr
  | none => []
  | some nodes => expressionsAll nodes

end

/-- How deep some nodes nest: the greater one of how deep tags with bodies nest and how deep
brackets nest in any of the expressions. -/
def depthAll (nodes : List Node) : Nat :=
  max (nestingAll nodes) (((expressionsAll nodes).map Expr.bracketDepth).foldr max 0)

/-- Within the bodies of some tags, the nodes nest no deeper than the limit. -/
structure Within (limit opened : Nat) (nodes : List Node) : Prop where
  nesting_le : opened + nestingAll nodes ≤ limit
  bracketDepth_le : ∀ e ∈ expressionsAll nodes, e.bracketDepth ≤ limit

theorem foldr_max_le_iff {ks : List Nat} {n : Nat} : ks.foldr max 0 ≤ n ↔ ∀ k ∈ ks, k ≤ n := by
  induction ks with
  | nil => simp
  | cons k ks ih => rw [List.foldr_cons, Nat.max_le, ih, List.forall_mem_cons]

theorem depthAll_le_iff {n : Nat} {nodes : List Node} : depthAll nodes ≤ n ↔ Within n 0 nodes := by
  rw [depthAll, Nat.max_le, foldr_max_le_iff, List.forall_mem_map]
  constructor
  · rintro ⟨hnesting, hdepth⟩
    exact ⟨by rwa [Nat.zero_add], hdepth⟩
  · rintro ⟨hnesting, hdepth⟩
    exact ⟨by rwa [Nat.zero_add] at hnesting, hdepth⟩

end Node

/-! ### What a marker holds -/

theorem Argument.mem_expressions_ofArguments {name : String} {args : List Argument} {e : Expr} :
    e ∈ (TagHeader.ofArguments name args).expressions ↔ ∃ a ∈ args, a.value = e := by
  simp only [TagHeader.expressions, TagHeader.ofArguments, List.mem_append, List.mem_map,
    List.mem_filterMap]
  constructor
  · rintro (⟨a, ha, h⟩ | ⟨kwarg, ⟨a, ha, h⟩, rfl⟩)
    · cases a <;> cases h
      exact ⟨_, ha, rfl⟩
    · cases a <;> cases h
      exact ⟨_, ha, rfl⟩
  · rintro ⟨a, ha, rfl⟩
    cases a with
    | positional e => exact Or.inl ⟨_, ha, rfl⟩
    | keyword k e => exact Or.inr ⟨(k, e), ⟨_, ha, rfl⟩, rfl⟩

theorem TagHeader.forall_expressions_ofArguments {name : String} {args : List Argument} {n : Nat} :
    (∀ e ∈ (ofArguments name args).expressions, e.bracketDepth ≤ n) ↔
      ∀ a ∈ args, a.value.bracketDepth ≤ n := by
  simp [Argument.mem_expressions_ofArguments]

namespace Compiler

variable {c c' : Compiler} {span : Span} {e : Expr} {header : TagHeader} {opened : List String}
  {spans : List Span} {nodes : List Node}

theorem HoldsExpression.bracketDepth_le (h : c.HoldsExpression span e) :
    e.bracketDepth ≤ c.maxDepth := by
  obtain ⟨s, hparse, -⟩ := h
  obtain ⟨_, _, -, -, hdepth, -⟩ := Expr.parse_eq_ok_iff.1 hparse
  exact hdepth

/-- An expression is read with every limit that its depth does not exceed. -/
theorem HoldsExpression.of_bracketDepth_le (h : c.HoldsExpression span e)
    (hdepth : e.bracketDepth ≤ c'.maxDepth) : c'.HoldsExpression span e := by
  obtain ⟨s, hparse, hend⟩ := h
  obtain ⟨us, s₁, htakes, hderives, -, hhalts⟩ := Expr.parse_eq_ok_iff.1 hparse
  exact ⟨s, Expr.parse_eq_ok_iff.2 ⟨us, s₁, htakes, hderives, hdepth, hhalts⟩, hend⟩

theorem HoldsHeader.bracketDepth_le (h : c.HoldsHeader span header) :
    ∀ e ∈ header.expressions, e.bracketDepth ≤ c.maxDepth := by
  obtain ⟨name, ts, args, -, -, -, hdepth, rfl⟩ := (TagHeader.parse_eq_ok_iff rfl).1 h
  exact TagHeader.forall_expressions_ofArguments.2 hdepth

/-- The header of a tag is read with every limit that the depth of its arguments does not exceed. -/
theorem HoldsHeader.of_bracketDepth_le (h : c.HoldsHeader span header)
    (hdepth : ∀ e ∈ header.expressions, e.bracketDepth ≤ c'.maxDepth) :
    c'.HoldsHeader span header := by
  obtain ⟨name, ts, args, hs, hname, hderives, -, rfl⟩ := (TagHeader.parse_eq_ok_iff rfl).1 h
  exact (TagHeader.parse_eq_ok_iff rfl).2
    ⟨name, ts, args, hs, hname, hderives, TagHeader.forall_expressions_ofArguments.1 hdepth, rfl⟩

/-! ### Plans -/

/-- The nodes that are matched within some tags are within the limit, if the tags are. -/
theorem Matches.within (h : c.Matches opened spans nodes) (hopened : opened.length ≤ c.maxDepth) :
    Node.Within c.maxDepth opened.length nodes := by
  induction h with
  | nil => exact ⟨by simpa [Node.nestingAll] using hopened, by simp [Node.expressionsAll]⟩
  | comment _ _ ih => exact ih hopened
  | text _ _ ih =>
    obtain ⟨hnesting, hdepth⟩ := ih hopened
    exact ⟨by simpa [Node.nestingAll, Node.nesting] using hnesting, hdepth⟩
  | expression _ he _ ih =>
    obtain ⟨hnesting, hdepth⟩ := ih hopened
    exact ⟨by simpa [Node.nestingAll, Node.nesting] using hnesting,
      List.forall_mem_cons.2 ⟨he.bracketDepth_le, hdepth⟩⟩
  | single _ hheader _ _ _ _ ih =>
    obtain ⟨hnesting, hdepth⟩ := ih hopened
    refine ⟨by simpa [Node.nestingAll, Node.nesting, Node.nestingBody] using hnesting, ?_⟩
    rw [Node.expressionsAll, Node.expressions, Node.expressionsBody, List.append_nil]
    exact List.forall_mem_append.2 ⟨hheader.bracketDepth_le, hdepth⟩
  | enclosing _ hheader _ _ _ hlt _ _ _ _ ihinner ih =>
    obtain ⟨hnesting, hdepth⟩ := ih hopened
    obtain ⟨hinner, hinnerDepth⟩ := ihinner hlt
    refine ⟨?_, ?_⟩
    · simp only [Node.nestingAll, Node.nesting, Node.nestingBody, List.length_cons] at hinner ⊢
      omega
    · rw [Node.expressionsAll, Node.expressions, Node.expressionsBody]
      exact List.forall_mem_append.2
        ⟨List.forall_mem_append.2 ⟨hheader.bracketDepth_le, hinnerDepth⟩, hdepth⟩

/-- The nodes that are matched with one limit are matched with every other limit that they are
within. -/
theorem Matches.of_within (h : c.Matches opened spans nodes)
    (hregistry : c'.registry = c.registry) (hwithin : Node.Within c'.maxDepth opened.length nodes) :
    c'.Matches opened spans nodes := by
  induction h with
  | nil => exact .nil
  | comment hkind _ ih => exact .comment hkind (ih hwithin)
  | text hkind _ ih =>
    obtain ⟨hnesting, hdepth⟩ := hwithin
    exact .text hkind (ih ⟨by simpa [Node.nestingAll, Node.nesting] using hnesting, hdepth⟩)
  | expression hkind he _ ih =>
    obtain ⟨hnesting, hdepth⟩ := hwithin
    obtain ⟨heDepth, hdepth⟩ := List.forall_mem_cons.1 hdepth
    exact .expression hkind (he.of_bracketDepth_le heDepth)
      (ih ⟨by simpa [Node.nestingAll, Node.nesting] using hnesting, hdepth⟩)
  | single hkind hheader hopen hhandler hbody _ ih =>
    obtain ⟨hnesting, hdepth⟩ := hwithin
    rw [Node.expressionsAll, Node.expressions, Node.expressionsBody, List.append_nil] at hdepth
    obtain ⟨hheaderDepth, hdepth⟩ := List.forall_mem_append.1 hdepth
    exact .single hkind (hheader.of_bracketDepth_le hheaderDepth) hopen (hregistry ▸ hhandler) hbody
      (ih ⟨by simpa [Node.nestingAll, Node.nesting, Node.nestingBody] using hnesting, hdepth⟩)
  | enclosing hkind hheader hopen hhandler hbody _ _ hlast hend _ ihinner ih =>
    obtain ⟨hnesting, hdepth⟩ := hwithin
    simp only [Node.nestingAll, Node.nesting, Node.nestingBody] at hnesting
    rw [Node.expressionsAll, Node.expressions, Node.expressionsBody] at hdepth
    obtain ⟨htagDepth, hdepth⟩ := List.forall_mem_append.1 hdepth
    obtain ⟨hheaderDepth, hinnerDepth⟩ := List.forall_mem_append.1 htagDepth
    exact .enclosing hkind (hheader.of_bracketDepth_le hheaderDepth) hopen (hregistry ▸ hhandler)
      hbody (by omega) (ihinner ⟨by rw [List.length_cons]; omega, hinnerDepth⟩) hlast hend
      (ih ⟨by omega, hdepth⟩)

/-! ### Templates -/

/-- What compiles has a depth within the limit. -/
theorem depthAll_le_of_compile {source : String} (h : c.compile source = .ok ⟨nodes⟩) :
    Node.depthAll nodes ≤ c.maxDepth := by
  have hmatches := plan_eq_ok_iff.1 (compile_eq_ok_iff_plan.1 h)
  exact Node.depthAll_le_iff.2 (hmatches.within (Nat.zero_le _))

/-- What compiles does so with every limit that its depth does not exceed. -/
theorem compile_of_depthAll_le {source : String} (h : c.compile source = .ok ⟨nodes⟩)
    (hregistry : c'.registry = c.registry) (hdepth : Node.depthAll nodes ≤ c'.maxDepth) :
    c'.compile source = .ok ⟨nodes⟩ := by
  have hmatches := plan_eq_ok_iff.1 (compile_eq_ok_iff_plan.1 h)
  exact compile_eq_ok_iff_plan.2 (plan_eq_ok_iff.2
    (hmatches.of_within hregistry (Node.depthAll_le_iff.1 hdepth)))

/-- A lower limit changes nothing unless it refuses something, and it refuses exactly the templates
whose plans are too deep for it. -/
theorem compile_of_limit_le (registry : Registry) (source : String) {n m : Nat} (hle : n ≤ m) :
    let low : Compiler := ⟨registry, n⟩
    let high : Compiler := ⟨registry, m⟩
    ((¬ ∃ loc, low.compile source = .error (.grammar (.nestingTooDeep n) loc)) →
        low.compile source = high.compile source) ∧
      ∀ nodes, high.compile source = .ok ⟨nodes⟩ → Node.depthAll nodes ≤ m ∧
        (Node.depthAll nodes ≤ n → low.compile source = .ok ⟨nodes⟩) ∧
        (n < Node.depthAll nodes →
          ∃ loc, low.compile source = .error (.grammar (.nestingTooDeep n) loc)) := by
  intro low high
  have hsame : SameWithin n (low.compile source) (high.compile source) :=
    compile_sameWithin hle source
  refine ⟨hsame.resolve_right, fun nodes h => ⟨depthAll_le_of_compile h, fun hdepth => ?_,
    fun hdeep => hsame.resolve_left fun heq => ?_⟩⟩
  · exact compile_of_depthAll_le h rfl hdepth
  · rw [h] at heq
    exact absurd (depthAll_le_of_compile heq) (Nat.not_le.2 hdeep)

/-- A tag whose body shows an item at a key that has a key itself. -/
def indexedNodes (tag shown : Location) : List Node :=
  [.tag ⟨"if", transparent, [], [], tag⟩
    (some [.expression (.item (.lookup "a") (.item (.lookup "b") (.lookup "c"))) shown])]

/-- The text of these nodes. -/
def indexedSource : String :=
  "\x7b% if %\x7d\x7b\x7b a [ b [ c ] ] \x7d\x7d\x7b% endif %\x7d"

/-- Two brackets within each other are accepted with the limit 2 and refused with the limit 1. -/
theorem compile_of_limit_le_indexedNodes :
    let registry := (default.withTag "if" transparent).registry
    (⟨registry, 2⟩ : Compiler).compile indexedSource = .ok ⟨indexedNodes ⟨1, 1⟩ ⟨1, 9⟩⟩ ∧
      Node.depthAll (indexedNodes ⟨1, 1⟩ ⟨1, 9⟩) = 2 ∧ 1 ≤ 2 ∧
      ∃ loc, (⟨registry, 1⟩ : Compiler).compile indexedSource =
        .error (.grammar (.nestingTooDeep 1) loc) := by
  intro registry
  let c : Compiler := ⟨registry, 2⟩
  have hcall : c.AcceptsCall ⟨"if", transparent, [], [], .start⟩ :=
    ⟨by decide, rfl, by simp, by simp⟩
  have hshown : c.Accepts .expression (.item (.lookup "a") (.item (.lookup "b") (.lookup "c"))) :=
    ⟨⟨(by decide : Lexeme.IsName "a".toList), (by decide : Lexeme.IsName "b".toList),
      (by decide : Lexeme.IsName "c".toList)⟩, by decide⟩
  have hwritable : c.Writable [] (indexedNodes .start .start) :=
    .enclosing hcall (by simp) rfl (by decide) (.expression hshown .nil) .nil
  have hsource : Node.writtenAll .preferDouble (indexedNodes .start .start) =
      indexedSource.toList := rfl
  have hcompile := compile_eq_ok_iff_plan.2 (plan_writtenAll .preferDouble hwritable)
  rw [hsource, String.ofList_toList] at hcompile
  have hdepth : Node.depthAll (indexedNodes ⟨1, 1⟩ ⟨1, 9⟩) = 2 := by decide
  obtain ⟨-, hrefused⟩ :=
    (compile_of_limit_le registry indexedSource (by decide : 1 ≤ 2)).2 _ hcompile
  exact ⟨hcompile, hdepth, by decide, hrefused.2 (by decide)⟩

end Compiler

end TextTemplate
