import TextTemplate.Proofs.Plan.Nesting
import TextTemplate.Proofs.Plan.Output

/-!
# Variables and their values

A context matters to an expression only by the values that it gives to the variables of the
expression. If some variables are replaced by their values, written as literals, then the rest can
be evaluated without them, and nothing else changes: neither which fault comes first nor how it is
reported. The same holds for a plan without tags, since all it does is to write text and the values
of expressions. It does not hold for tags, whose handlers are given the whole context.

Two cases are of interest. If one variable is replaced, this says that binding a variable is
substitution. If none is replaced, it says that contexts which agree on the variables of a plan
cannot be told apart by it. Both come from one induction over the expression, which goes along with
the accesses that were put off.

## Main definitions

* `Expr.names`, `Node.namesAll`: the names that occur in an expression or in some nodes.
* `Assignment`: values for some variables.
* `Expr.instantiate`, `Node.instantiate`: literals in the place of the variables that have values.

## Main results

* `Expr.evalOnto_instantiate`, `Node.renderAll_instantiate`: literals in the place of variables have
  the effect of a context that gives them these values.
* `Node.renderAll_insert`: binding a variable is substitution, in expressions and in plans.
-/

namespace TextTemplate

/-- Values for some variables. -/
abbrev Assignment := String → Option Value

/-- A value for one variable. -/
def Assignment.single (name : String) (v : Value) : Assignment := fun x =>
  if x = name then some v else none

/-- No values. -/
def Assignment.none : Assignment := fun _ => .none

variable {ctx ctx' : Context} {σ : Assignment}

/-! ### Expressions -/

namespace Expr

variable {e : Expr}

/-- The names of the variables of an expression, keys included. -/
def names : Expr → List String
  | .literal _ => []
  | .lookup name => [name]
  | .member base _ => base.names
  | .item base key => base.names ++ key.names

/-- The expression with literals in the place of the variables that have values. -/
def instantiate (σ : Assignment) : Expr → Expr
  | .literal v => .literal v
  | .lookup name =>
    match σ name with
    | some v => .literal v
    | none => .lookup name
  | .member base name => .member (base.instantiate σ) name
  | .item base key => .item (base.instantiate σ) (key.instantiate σ)

theorem instantiate_none (e : Expr) : e.instantiate .none = e := by
  induction e with
  | literal | lookup => rfl
  | member base name ih => rw [instantiate, ih]
  | item base key ihbase ihkey => rw [instantiate, ihbase, ihkey]

/-- Literals in the place of variables have the effect of a context that gives them these values.
-/
theorem evalOnto_instantiate
    (h : ∀ name ∈ e.names, ctx'.get? name = (σ name).or (ctx.get? name))
    (accesses : List Access) :
    (e.instantiate σ).evalOnto ctx accesses = e.evalOnto ctx' accesses := by
  induction e generalizing accesses with
  | literal v => rfl
  | lookup name =>
    have hname := h name (List.mem_singleton_self name)
    rw [instantiate]
    cases hσ : σ name with
    | some v =>
      rw [hσ, Option.some_or] at hname
      simp only [evalOnto, Context.getVariable, hname]
      rfl
    | none =>
      rw [hσ, Option.none_or] at hname
      simp only [evalOnto, Context.getVariable, hname]
  | member base name ih => exact ih h _
  | item base key ihbase ihkey =>
    -- the access that is put off evaluates the key, so it is the same access in both contexts
    obtain ⟨hbase, hkey⟩ := List.forall_mem_append.1 h
    rw [instantiate, evalOnto, evalOnto, ihbase hbase, ihkey hkey]

theorem eval_instantiate
    (h : ∀ name ∈ e.names, ctx'.get? name = (σ name).or (ctx.get? name)) :
    (e.instantiate σ).eval ctx = e.eval ctx' := by
  rw [eval, eval, evalOnto_instantiate h]

end Expr

theorem Context.get?_insert_eq_or (ctx : Context) (name : String) (v : Value) (x : String) :
    (ctx.insert name v).get? x = (Assignment.single name v x).or (ctx.get? x) := by
  rw [Bindings.get?_insert, Assignment.single]
  split <;> rfl

/-! ### Plans without tags -/

namespace Node

variable {nodes : List Node}

/-- The names of the variables of some nodes. -/
def namesAll (nodes : List Node) : List String :=
  (expressionsAll nodes).flatMap Expr.names

/-- The node with literals in the place of the variables that have values. Tags stay as they are,
since their handlers are given the whole context. -/
def instantiate (σ : Assignment) : Node → Node
  | .expression e loc => .expression (e.instantiate σ) loc
  | node => node

/-- Some nodes are not tags. -/
def NoTags (nodes : List Node) : Prop :=
  ∀ node ∈ nodes, ∀ call body, node ≠ .tag call body

theorem map_instantiate_none (nodes : List Node) : nodes.map (instantiate .none) = nodes := by
  refine (List.map_congr_left fun node _ => ?_).trans (List.map_id nodes)
  cases node with
  | text | tag => rfl
  | expression e loc => rw [instantiate, e.instantiate_none, id]

/-- A node that is no tag is rendered as if the values of the variables stood in their place. -/
theorem render_instantiate {node : Node} (htag : ∀ call body, node ≠ .tag call body)
    (h : ∀ e ∈ node.expressions, ∀ name ∈ e.names,
      ctx'.get? name = (σ name).or (ctx.get? name)) :
    (node.instantiate σ).render ctx = node.render ctx' := by
  cases node with
  | text s => rfl
  | expression e loc =>
    rw [expressions, List.forall_mem_singleton] at h
    rw [instantiate, render, render, Expr.evalAt, Expr.evalAt, Expr.eval_instantiate h]
  | tag call body => exact absurd rfl (htag call body)

/-- So is a plan without tags: it writes the same, and it fails in the same way or not at all. -/
theorem renderAll_instantiate (htags : NoTags nodes)
    (h : ∀ name ∈ namesAll nodes, ctx'.get? name = (σ name).or (ctx.get? name)) :
    renderAll (nodes.map (instantiate σ)) ctx = renderAll nodes ctx' := by
  induction nodes with
  | nil => rfl
  | cons node nodes ih =>
    obtain ⟨htag, htags⟩ := List.forall_mem_cons.1 htags
    rw [namesAll, expressionsAll, List.flatMap_append, List.forall_mem_append] at h
    have hnode : ∀ e ∈ node.expressions, ∀ name ∈ e.names,
        ctx'.get? name = (σ name).or (ctx.get? name) :=
      fun e he name hname => h.1 name (List.mem_flatMap.2 ⟨e, he, hname⟩)
    rw [List.map_cons, renderAll, renderAll, render_instantiate htag hnode, ih htags h.2]

/-- To evaluate an expression with a variable bound to a value is to evaluate the expression with
the value in the place of the variable. To render a plan without tags is the same: the same text is
written into every output, and the same failure is reported at the same location. So two contexts
that agree on the names in such a plan render it alike. -/
theorem renderAll_insert :
    (∀ (e : Expr) (ctx : Context) (name : String) (v : Value),
        e.eval (ctx.insert name v) = (e.instantiate (.single name v)).eval ctx) ∧
      ∀ nodes, NoTags nodes →
        (∀ (ctx : Context) (name : String) (v : Value), renderAll nodes (ctx.insert name v) =
            renderAll (nodes.map (instantiate (.single name v))) ctx) ∧
          ∀ ctx ctx' : Context, (∀ name ∈ namesAll nodes, ctx.get? name = ctx'.get? name) →
            renderAll nodes ctx = renderAll nodes ctx' := by
  refine ⟨fun e ctx name v => ?_, fun nodes htags => ⟨fun ctx name v => ?_, fun ctx ctx' h => ?_⟩⟩
  · exact (Expr.eval_instantiate fun x _ => ctx.get?_insert_eq_or name v x).symm
  · exact (renderAll_instantiate htags fun x _ => ctx.get?_insert_eq_or name v x).symm
  · have hnone := renderAll_instantiate (σ := .none) htags h
    rw [map_instantiate_none] at hnone
    exact hnone.symm

/-- The variable of a key is replaced as well, and the failure of the access that it leads to comes
behind what has been written. -/
theorem renderAll_insert_key :
    let nodes : List Node :=
      [.text "a", .expression (.item (.lookup "word") (.lookup "k")) ⟨1, 2⟩,
        .expression (.member (.lookup "k") "m") ⟨2, 1⟩]
    let ctx : Context := .ofList [("word", .string "hey"), ("k", .null)]
    let ctx' : Context := .ofList [("word", .string "hey"), ("k", .int (-1)), ("other", .null)]
    NoTags nodes ∧
      renderAll (nodes.map (instantiate (.single "k" (.int (-1))))) ctx "" =
        .error (.lookup (.memberNotFound "m" .int) ⟨2, 1⟩) "ay" ∧
      renderAll nodes (ctx.insert "k" (.int (-1))) "" =
        .error (.lookup (.memberNotFound "m" .int) ⟨2, 1⟩) "ay" ∧
      (∀ name ∈ namesAll nodes, (ctx.insert "k" (.int (-1))).get? name = ctx'.get? name) ∧
      renderAll nodes ctx' "" = .error (.lookup (.memberNotFound "m" .int) ⟨2, 1⟩) "ay" := by
  intro nodes ctx ctx'
  have htags : NoTags nodes := by
    simp [NoTags, nodes]
  have hagree : ∀ name ∈ namesAll nodes,
      (ctx.insert "k" (.int (-1))).get? name = ctx'.get? name := by
    have hnames : namesAll nodes = ["word", "k", "k"] := rfl
    rw [hnames, List.forall_mem_cons, List.forall_mem_cons, List.forall_mem_singleton]
    exact ⟨rfl, rfl, rfl⟩
  have hdone : renderAll (nodes.map (instantiate (.single "k" (.int (-1))))) ctx "" =
      .error (.lookup (.memberNotFound "m" .int) ⟨2, 1⟩) "ay" := rfl
  obtain ⟨hinsert, hcongr⟩ := renderAll_insert.2 nodes htags
  have hbound := (congrFun (hinsert ctx "k" (.int (-1))) "").trans hdone
  exact ⟨htags, hdone, hbound, hagree, (congrFun (hcongr _ _ hagree) "").symm.trans hbound⟩

end Node

end TextTemplate
