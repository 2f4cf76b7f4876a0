import TextTemplate.Template

/-!
# What rendering writes

Rendering writes to an output that may hold something already. If the handlers of a plan append to
the output, in a way that does not depend on what it holds, then so does the rendering of the plan,
and the output of a list of nodes is put together from the outputs of its parts. This holds however
a handler uses the body of its tag: in the output or in one of its own, against any context, any
number of times, and whether or not it passes on a failure. It is only assumed that the handler
appends whenever the rendering of the body does; that the body does is shown along with the rest, by
induction on the nodes.

## Main definitions

* `Rendering.Appends`: a computation appends to the output.
* `Handler.Appends`: a handler appends if the rendering of the body does.
* `Node.handlersAll`: the handlers of the tags of some nodes, at any depth.
* `Expr.FirstFault`: the first expression without a value.
* `Node.evaluated`: the expressions that are evaluated for a node itself.

## Main results

* `Node.appends_renderAll`: rendering a plan appends if its handlers do.
* `Node.renderToString_append`: the output of two lists of nodes in turn.
* `Node.renderToString_eq_error_iff`: rendering fails at the first node that fails.
* `Node.render_of_firstFault`: a node with an expression that has no value writes nothing.
* `Node.renderAll_output`: the results above for two lists of nodes, in one statement.
-/

namespace TextTemplate

/-! ### Computations that append -/

namespace Rendering

variable {α β : Type} {x : Rendering α} {f : α → Rendering β}

/-- A result with some text in front of what was written. -/
def behind (front : String) : EStateM.Result Error String α → EStateM.Result Error String α
  | .ok a out => .ok a (front ++ out)
  | .error err out => .error err (front ++ out)

/-- A computation appends to the output: what it gives and what it writes does not depend on what
the output holds, not even if it fails. -/
def Appends (x : Rendering α) : Prop :=
  ∀ out, x out = behind out (x "")

theorem behind_behind (front back : String) (r : EStateM.Result Error String α) :
    behind front (behind back r) = behind (front ++ back) r := by
  cases r <;> simp [behind, String.append_assoc]

theorem appends_pure (a : α) : Appends (pure a : Rendering α) := fun out => by
  simp [pure, EStateM.pure, behind]

theorem appends_emit (text : String) : Appends (emit text) := fun out => by
  simp [emit, behind]

theorem appends_throw (err : Error) : Appends (throw err : Rendering α) := fun out => by
  change EStateM.Result.error err out = .error err (out ++ "")
  rw [String.append_empty]

theorem appends_ofExcept (r : Except Error α) :
    Appends (MonadExcept.ofExcept r : Rendering α) := by
  cases r with
  | ok a => exact appends_pure a
  | error err => exact appends_throw err

/-- One computation after another appends if both do. -/
theorem Appends.bind (hx : Appends x) (hf : ∀ a, Appends (f a)) : Appends (x >>= f) := by
  intro out
  simp only [Bind.bind, EStateM.bind]
  rw [hx out]
  cases x "" with
  | ok a written =>
    calc f a (out ++ written)
        = behind (out ++ written) (f a "") := hf a _
      _ = behind out (behind written (f a "")) := (behind_behind ..).symm
      _ = behind out (f a written) := by rw [← hf a written]
  | error err written => rfl

end Rendering

/-- The rendering of the body appends, against every context. -/
def Invocation.BodyAppends (tag : Invocation) : Prop :=
  ∀ ctx, (tag.renderBodyWith ctx).Appends

/-- A handler appends to the output, in a way that depends on the tag alone, if the rendering of the
body of the tag does. -/
def Handler.Appends (handler : Handler) : Prop :=
  ∀ tag : Invocation, tag.BodyAppends → (handler.render tag).Appends

theorem TagCall.appends_render {call : TagCall} (h : call.handler.Appends)
    {body : Option (Context → Rendering Unit)}
    (hbody : ∀ render ∈ body, ∀ ctx, (render ctx).Appends) (ctx : Context) :
    (call.render ctx body).Appends := by
  refine (Rendering.appends_ofExcept _).bind fun args => ?_
  refine (Rendering.appends_ofExcept _).bind fun kwargs => h _ fun ctx' => ?_
  cases body with
  | none => exact Rendering.appends_pure ()
  | some render => exact hbody render rfl ctx'

namespace Node

/-! ### The rendering of a plan appends -/

mutual

/-- The handlers of a node and of the nodes in its body. -/
def handlers : Node → List Handler
  | .text _ => []
  | .expression _ _ => []
  | .tag call body => call.handler :: handlersBody body

/-- The handlers of some nodes and of the nodes in their bodies. -/
def handlersAll : List Node → List Handler
  | [] => []
  | node :: nodes => handlers node ++ handlersAll nodes

/-- The handlers of the nodes in a body. -/
def handlersBody : Option (List Node) → List Handler
  | none => []
  | some nodes => handlersAll nodes

end

theorem handlersAll_append (xs ys : List Node) :
    handlersAll (xs ++ ys) = handlersAll xs ++ handlersAll ys := by
  induction xs with
  | nil => rfl
  | cons x xs ih => rw [List.cons_append, handlersAll, ih, handlersAll, List.append_assoc]

mutual

/-- Rendering a node appends if its handlers do. -/
theorem appends_render (ctx : Context) : ∀ node : Node,
    (∀ handler ∈ node.handlers, handler.Appends) → (node.render ctx).Appends
  | .text s, _ => by
    rw [render]
    exact Rendering.appends_emit s
  | .expression e loc, _ => by
    rw [render]
    exact (Rendering.appends_ofExcept _).bind fun v => Rendering.appends_emit v.display
  | .tag call body, h => by
    rw [handlers, List.forall_mem_cons] at h
    rw [render]
    exact TagCall.appends_render h.1 (appends_renderBody body h.2) ctx

/-- Rendering some nodes appends if their handlers do. -/
theorem appends_renderAll (ctx : Context) : ∀ nodes : List Node,
    (∀ handler ∈ handlersAll nodes, handler.Appends) → (renderAll nodes ctx).Appends
  | [], _ => by
    rw [renderAll]
    exact Rendering.appends_pure ()
  | node :: nodes, h => by
    rw [handlersAll, List.forall_mem_append] at h
    rw [renderAll]
    exact (appends_render ctx node h.1).bind fun _ => appends_renderAll ctx nodes h.2

theorem appends_renderBody : ∀ body : Option (List Node),
    (∀ handler ∈ handlersBody body, handler.Appends) →
      ∀ render ∈ renderBody body, ∀ ctx, (render ctx).Appends
  | none, _ => by
    rw [renderBody]
    rintro _ ⟨⟩
  | some nodes, h => by
    rw [handlersBody] at h
    rw [renderBody]
    rintro _ ⟨⟩ ctx
    exact appends_renderAll ctx nodes h

end

/-! ### Nodes in turn -/

variable {ctx : Context} {xs ys nodes : List Node} {err : Error} {front out : String}

/-- Two lists of nodes are rendered one after the other. -/
theorem renderAll_append (xs ys : List Node) (ctx : Context) :
    renderAll (xs ++ ys) ctx = renderAll xs ctx >>= fun _ => renderAll ys ctx := by
  induction xs with
  | nil => rw [List.nil_append, renderAll, pure_bind]
  | cons x xs ih => rw [List.cons_append, renderAll, ih, renderAll, bind_assoc]

/-- Rendering into an output that holds something gives what rendering into an empty one gives,
behind what it holds. -/
theorem renderAll_eq_ok_iff (h : (renderAll nodes ctx).Appends) :
    renderAll nodes ctx front = .ok () out ↔
      ∃ s, renderToString nodes ctx = .ok s ∧ out = front ++ s := by
  rw [h front, renderToString]
  cases renderAll nodes ctx "" <;> simp [Rendering.behind, eq_comm]

/-- A failure is the same whatever the output holds, and so is what has been written before it. -/
theorem exists_renderAll_eq_error (h : (renderAll nodes ctx).Appends)
    (herr : renderToString nodes ctx = .error err) :
    ∃ written, ∀ front, renderAll nodes ctx front = .error err (front ++ written) := by
  rw [renderToString] at herr
  cases hrun : renderAll nodes ctx "" with
  | ok u out => simp [hrun] at herr
  | error err' written =>
    obtain rfl : err' = err := by simpa [hrun] using herr
    exact ⟨written, fun front => by rw [h front, hrun, Rendering.behind]⟩

/-- The output of two lists of nodes in turn is the output of the first one and then that of the
second one. -/
theorem renderToString_append (xs : List Node) (h : (renderAll ys ctx).Appends) :
    renderToString (xs ++ ys) ctx = do
      let s ← renderToString xs ctx
      let t ← renderToString ys ctx
      return s ++ t := by
  rw [renderToString, renderAll_append, renderToString, renderToString]
  simp only [bind, EStateM.bind]
  cases renderAll xs ctx "" with
  | error err out => rfl
  | ok u out =>
    simp only [h out]
    cases renderAll ys ctx "" <;> rfl

theorem renderToString_append_eq_ok_iff (xs : List Node) (h : (renderAll ys ctx).Appends) :
    renderToString (xs ++ ys) ctx = .ok out ↔ ∃ s t, renderToString xs ctx = .ok s ∧
      renderToString ys ctx = .ok t ∧ out = s ++ t := by
  rw [renderToString_append xs h]
  cases renderToString xs ctx <;> cases renderToString ys ctx <;>
    simp [bind, Except.bind, pure, Except.pure, eq_comm]

theorem renderToString_append_eq_error_iff (xs : List Node) (h : (renderAll ys ctx).Appends) :
    renderToString (xs ++ ys) ctx = .error err ↔ renderToString xs ctx = .error err ∨
      ∃ s, renderToString xs ctx = .ok s ∧ renderToString ys ctx = .error err := by
  rw [renderToString_append xs h]
  cases renderToString xs ctx <;> cases renderToString ys ctx <;>
    simp [bind, Except.bind, pure, Except.pure]

/-- Rendering fails at the first node that fails. -/
theorem renderToString_eq_error_iff (h : ∀ handler ∈ handlersAll nodes, handler.Appends) :
    renderToString nodes ctx = .error err ↔ ∃ before node after s,
      nodes = before ++ node :: after ∧ renderToString before ctx = .ok s ∧
        renderToString [node] ctx = .error err := by
  constructor
  · intro herr
    induction nodes with
    | nil => cases herr
    | cons node nodes ih =>
      rw [handlersAll, List.forall_mem_append] at h
      have hnodes := appends_renderAll ctx nodes h.2
      -- the first node fails, or it is put in front of those before the node that does
      rcases (renderToString_append_eq_error_iff [node] hnodes).1 herr with
        hnode | ⟨s, hnode, hrest⟩
      · exact ⟨[], node, nodes, "", rfl, rfl, hnode⟩
      · obtain ⟨before, last, after, t, rfl, hbefore, hlast⟩ := ih h.2 hrest
        rw [handlersAll_append, List.forall_mem_append] at h
        have happends := appends_renderAll ctx before h.2.1
        refine ⟨node :: before, last, after, s ++ t, rfl, ?_, hlast⟩
        exact (renderToString_append_eq_ok_iff [node] happends).2
          ⟨s, t, hnode, hbefore, rfl⟩
  · rintro ⟨before, node, after, s, rfl, hbefore, hnode⟩
    rw [handlersAll_append, handlersAll, List.forall_mem_append, List.forall_mem_append] at h
    have hafter := appends_renderAll ctx after h.2.2
    have hrest : renderToString (node :: after) ctx = .error err :=
      (renderToString_append_eq_error_iff [node] hafter).2 (Or.inl hnode)
    have hnodes : (renderAll (node :: after) ctx).Appends := by
      rw [renderAll]
      exact (appends_render ctx node h.2.1).bind fun _ => hafter
    exact (renderToString_append_eq_error_iff before hnodes).2 (Or.inr ⟨s, hbefore, hrest⟩)

end Node

/-! ### Expressions without a value -/

namespace Expr

variable {ctx : Context} {cause : LookupError} {e : Expr} {es ds : List Expr}

/-- An expression has a value. -/
def HasValue (ctx : Context) (e : Expr) : Prop :=
  ∃ v, e.eval ctx = .ok v

/-- The first of some expressions that has no value has none for the given reason. -/
inductive FirstFault (ctx : Context) (cause : LookupError) : List Expr → Prop where
  | here {e : Expr} {es : List Expr} (h : e.eval ctx = .error cause) :
      FirstFault ctx cause (e :: es)
  | later {e : Expr} {es : List Expr} (he : e.HasValue ctx) (h : FirstFault ctx cause es) :
      FirstFault ctx cause (e :: es)

theorem exists_firstFault (he : e ∈ es) (h : ¬ e.HasValue ctx) :
    ∃ cause, FirstFault ctx cause es := by
  induction es with
  | nil => cases he
  | cons d es ih =>
    cases hd : d.eval ctx with
    | error cause => exact ⟨cause, .here hd⟩
    | ok v =>
      rcases List.mem_cons.1 he with rfl | he
      · exact absurd ⟨v, hd⟩ h
      · obtain ⟨cause, hes⟩ := ih he
        exact ⟨cause, .later ⟨v, hd⟩ hes⟩

/-- The first fault among some expressions and others behind them is among the first ones, unless
all of these have values. -/
theorem FirstFault.of_append (h : FirstFault ctx cause (es ++ ds)) :
    FirstFault ctx cause es ∨ (∀ e ∈ es, e.HasValue ctx) ∧ FirstFault ctx cause ds := by
  induction es with
  | nil => exact Or.inr ⟨by simp, h⟩
  | cons e es ih =>
    cases h with
    | here h => exact Or.inl (.here h)
    | later he h =>
      rcases ih h with h | ⟨hes, h⟩
      · exact Or.inl (.later he h)
      · exact Or.inr ⟨List.forall_mem_cons.2 ⟨he, hes⟩, h⟩

section

variable {α β : Type} {f : α → Except Error β} {g : α → Expr} {loc : Location} {xs : List α}

private theorem exists_mapM_eq_ok (hok : ∀ x v, (g x).eval ctx = .ok v → ∃ y, f x = .ok y)
    (h : ∀ e ∈ xs.map g, e.HasValue ctx) : ∃ ys, xs.mapM f = .ok ys := by
  induction xs with
  | nil => exact ⟨[], rfl⟩
  | cons x xs ih =>
    obtain ⟨⟨v, hv⟩, hxs⟩ := List.forall_mem_cons.1 h
    obtain ⟨y, hy⟩ := hok x v hv
    obtain ⟨ys, hys⟩ := ih hxs
    exact ⟨y :: ys, by simp [List.mapM_cons, hy, hys, bind, Except.bind, pure, Except.pure]⟩

private theorem mapM_eq_error (hok : ∀ x v, (g x).eval ctx = .ok v → ∃ y, f x = .ok y)
    (herr : ∀ x cause, (g x).eval ctx = .error cause → f x = .error (.lookup cause loc))
    (h : FirstFault ctx cause (xs.map g)) : xs.mapM f = .error (.lookup cause loc) := by
  induction xs with
  | nil => cases h
  | cons x xs ih =>
    rw [List.mapM_cons]
    cases h with
    | here h =>
      rw [herr x cause h]
      rfl
    | later he h =>
      obtain ⟨v, hv⟩ := he
      obtain ⟨y, hy⟩ := hok x v hv
      rw [hy, ih h]
      rfl

end

theorem evalAt_eq_ok {v : Value} (h : e.eval ctx = .ok v) (loc : Location) :
    e.evalAt ctx loc = .ok v := by
  rw [evalAt, h]

theorem evalAt_eq_error (h : e.eval ctx = .error cause) (loc : Location) :
    e.evalAt ctx loc = .error (.lookup cause loc) := by
  rw [evalAt, h]

end Expr

namespace TagCall

variable {ctx : Context} {call : TagCall} {cause : LookupError}

theorem exists_evalArgs_eq_ok (h : ∀ e ∈ call.args, e.HasValue ctx) :
    ∃ args, call.evalArgs ctx = .ok args := by
  rw [← List.map_id call.args] at h
  exact Expr.exists_mapM_eq_ok (fun e v hv => ⟨v, Expr.evalAt_eq_ok hv _⟩) h

theorem evalArgs_eq_error (h : Expr.FirstFault ctx cause call.args) :
    call.evalArgs ctx = .error (.lookup cause call.location) := by
  rw [← List.map_id call.args] at h
  exact Expr.mapM_eq_error (fun e v hv => ⟨v, Expr.evalAt_eq_ok hv _⟩)
    (fun e _ he => Expr.evalAt_eq_error he _) h

theorem evalKwargs_eq_error (h : Expr.FirstFault ctx cause (call.kwargs.map Prod.snd)) :
    call.evalKwargs ctx = .error (.lookup cause call.location) := by
  refine Expr.mapM_eq_error (fun kwarg v hv => ⟨(kwarg.1, v), ?_⟩) (fun kwarg _ he => ?_) h
  · simp only [Expr.evalAt_eq_ok hv]
    rfl
  · simp only [Expr.evalAt_eq_error he]
    rfl

/-- If an argument has no value, the handler is not run. -/
theorem render_eq_error (h : Expr.FirstFault ctx cause (call.args ++ call.kwargs.map Prod.snd))
    (body : Option (Context → Rendering Unit)) (out : String) :
    call.render ctx body out = .error (.lookup cause call.location) out := by
  rw [render]
  rcases h.of_append with hargs | ⟨hargs, hkwargs⟩
  · rw [evalArgs_eq_error hargs]
    rfl
  · obtain ⟨args, hargs⟩ := exists_evalArgs_eq_ok hargs
    rw [hargs, evalKwargs_eq_error hkwargs]
    rfl

end TagCall

namespace Node

variable {ctx : Context} {cause : LookupError} {xs ys : List Node}

/-- The expressions that are evaluated for a node itself, in order, with the location of the node.
For a tag they are the positional arguments and then the keyword arguments. -/
def evaluated : Node → Option (Location × List Expr)
  | .text _ => none
  | .expression e loc => some (loc, [e])
  | .tag call _ => some (call.location, call.args ++ call.kwargs.map Prod.snd)

/-- A node with an expression that has no value writes nothing and reports the first such expression
at its own location. The handler of a tag is not run, whatever it would do. -/
theorem render_of_firstFault {node : Node} {loc : Location} {es : List Expr}
    (hnode : node.evaluated = some (loc, es)) (h : Expr.FirstFault ctx cause es) (out : String) :
    node.render ctx out = .error (.lookup cause loc) out := by
  cases node with
  | text s => cases hnode
  | expression e loc =>
    cases hnode
    rw [render]
    cases h with
    | here h =>
      rw [Expr.evalAt_eq_error h]
      rfl
    | later _ h => cases h
  | tag call body =>
    cases hnode
    rw [render]
    exact TagCall.render_eq_error h _ out

/-- If the handlers of two lists of nodes append, then rendering the first list into an output gives
its output behind what is there, or a failure with something written that is the same for all such
outputs; both lists in turn give both outputs in turn or the first failure; and a failing list fails
at its first node that does. A node with an expression that has no value writes nothing and reports
it at its own location. -/
theorem renderAll_output (ctx : Context) (xs ys : List Node)
    (hxs : ∀ handler ∈ handlersAll xs, handler.Appends)
    (hys : ∀ handler ∈ handlersAll ys, handler.Appends) :
    (∀ front out, renderAll xs ctx front = .ok () out ↔
        ∃ s, renderToString xs ctx = .ok s ∧ out = front ++ s) ∧
      (∀ err, renderToString xs ctx = .error err →
        ∃ written, ∀ front, renderAll xs ctx front = .error err (front ++ written)) ∧
      (∀ out, renderToString (xs ++ ys) ctx = .ok out ↔ ∃ s t, renderToString xs ctx = .ok s ∧
        renderToString ys ctx = .ok t ∧ out = s ++ t) ∧
      (∀ err, renderToString (xs ++ ys) ctx = .error err ↔ renderToString xs ctx = .error err ∨
        ∃ s, renderToString xs ctx = .ok s ∧ renderToString ys ctx = .error err) ∧
      (∀ err, renderToString xs ctx = .error err ↔ ∃ before node after s,
        xs = before ++ node :: after ∧ renderToString before ctx = .ok s ∧
          renderToString [node] ctx = .error err) ∧
      ∀ (node : Node) (loc : Location) (es : List Expr), node.evaluated = some (loc, es) →
        ∀ e ∈ es, ¬ e.HasValue ctx → ∃ cause, Expr.FirstFault ctx cause es ∧
          ∀ out, node.render ctx out = .error (.lookup cause loc) out := by
  have happends := appends_renderAll ctx xs hxs
  have hbehind := appends_renderAll ctx ys hys
  refine ⟨fun front out => renderAll_eq_ok_iff happends,
    fun err herr => exists_renderAll_eq_error happends herr,
    fun out => renderToString_append_eq_ok_iff xs hbehind,
    fun err => renderToString_append_eq_error_iff xs hbehind,
    fun err => renderToString_eq_error_iff hxs, fun node loc es hnode e he hvalue => ?_⟩
  obtain ⟨cause, hfault⟩ := Expr.exists_firstFault he hvalue
  exact ⟨cause, hfault, render_of_firstFault hnode hfault⟩

/-- A tag that renders its body into an output of its own. If this fails, it shows what has been
written before the failure. -/
def sheltered : Handler where
  hasBody := true
  render tag out :=
    match tag.renderBody "" with
    | .ok _ written => .ok () (out ++ written)
    | .error _ written => .ok () (out ++ ("[" ++ written ++ "]"))

theorem appends_sheltered : sheltered.Appends := fun tag _ out => by
  simp only [sheltered]
  cases tag.renderBody "" <;> simp [Rendering.behind]

/-- The failure inside the tag is kept from the rest of the plan, and the one behind it is not. -/
theorem renderAll_output_sheltered :
    let body : List Node := [.text "b", .expression (.lookup "x") ⟨1, 12⟩]
    let xs : List Node := [.text "a", .tag ⟨"try", sheltered, [], [], ⟨1, 2⟩⟩ (some body)]
    let y : Node := .expression (.lookup "y") ⟨2, 1⟩
    (∀ handler ∈ handlersAll xs, handler.Appends) ∧ (∀ handler ∈ handlersAll [y], handler.Appends) ∧
      renderAll xs .empty "c" = .ok () "ca[b]" ∧
      renderToString (xs ++ [y]) .empty = .error (.lookup (.keyNotFound "y") ⟨2, 1⟩) ∧
      ∃ cause, ∀ out, y.render .empty out = .error (.lookup cause ⟨2, 1⟩) out := by
  intro body xs y
  have hxs : ∀ handler ∈ handlersAll xs, handler.Appends :=
    List.forall_mem_singleton.2 appends_sheltered
  have hy : ∀ handler ∈ handlersAll [y], handler.Appends := by rintro _ ⟨⟩
  have hmissing : ¬ (Expr.lookup "y").HasValue .empty := by rintro ⟨v, ⟨⟩⟩
  obtain ⟨hok, -, -, herror, -, hfault⟩ := renderAll_output .empty xs [y] hxs hy
  obtain ⟨cause, -, hcause⟩ := hfault y ⟨2, 1⟩ [.lookup "y"] rfl _ List.mem_cons_self hmissing
  exact ⟨hxs, hy, (hok "c" _).2 ⟨"a[b]", rfl, rfl⟩, (herror _).2 (Or.inr ⟨"a[b]", rfl, rfl⟩),
    cause, hcause⟩

end Node

end TextTemplate
