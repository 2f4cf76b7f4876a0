import TextTemplate.Expr.Eval

/-!
# Evaluation follows the structure of expressions

The rules of evaluation speak of an expression and its parts: the base of an access is evaluated
first, then its key, and only then is there an access; whatever fails first is the error. Evaluation
itself goes down to the root, puts the accesses off and applies them on the way back. Both give the
same, since to apply the accesses that were put off is to go on with the result of what is before
them.

The rules do not say where a value comes from. This is no loss: a new value has the same parts as
one that belongs to the context.

## Main definitions

* `Expr.Evaluates`: the rules of evaluation.

## Main results

* `Expr.evalOnto_eq_bind`: the accesses that were put off are applied to the result.
* `Expr.evaluates_iff_eval_eq`: the rules describe evaluation, whether values are shared or new.
-/

namespace TextTemplate

/-! ### Where a value comes from -/

namespace Operand

theorem value_ofItem? (base key : Value) : (ofItem? base key).map value = base.item? key := by
  unfold ofItem?
  split <;> rw [Option.map_map] <;> exact Option.map_id_apply

theorem value_member? (v : Operand) (name : String) :
    (v.member? name).map value = v.value.member? name := by
  cases v <;> rw [member?, Option.map_map] <;> exact Option.map_id_apply

theorem value_item? (v : Operand) (key : Value) :
    (v.item? key).map value = v.value.item? key := by
  cases v with
  | shared base => exact value_ofItem? base key
  | fresh base =>
    rw [item?, Option.map_map]
    exact value_ofItem? base key

/-- The member of a value depends on the value only. -/
theorem value_getMember (v : Operand) (name : String) :
    value <$> v.getMember name = match v.value.member? name with
      | some w => .ok w
      | none => .error (.memberNotFound name v.value.kind) := by
  rw [getMember, ← value_member?]
  cases v.member? name <;> rfl

/-- The item of a value depends on the value and on the key only. -/
theorem value_getItem (v : Operand) (key : Value) :
    value <$> v.getItem key = match v.value.item? key with
      | some w => .ok w
      | none => .error (.indexNotFound key.inspect v.value.kind) := by
  rw [getItem, ← value_item?]
  cases v.item? key <;> rfl

end Operand

namespace Expr

variable {ctx : Context} {e base key : Expr} {name : String} {r : Except LookupError Value}

/-! ### The rules -/

/-- The value of an expression in a context, or the first fault on the way to it. -/
inductive Evaluates (ctx : Context) : Expr → Except LookupError Value → Prop where
  | literal {v : Value} : Evaluates ctx (.literal v) (.ok v)
  | known {name : String} {v : Value} (h : ctx.get? name = some v) :
      Evaluates ctx (.lookup name) (.ok v)
  | unknown {name : String} (h : ctx.get? name = none) :
      Evaluates ctx (.lookup name) (.error (.keyNotFound name))
  | member {base : Expr} {name : String} {b v : Value} (hbase : Evaluates ctx base (.ok b))
      (h : b.member? name = some v) : Evaluates ctx (.member base name) (.ok v)
  | noMember {base : Expr} {name : String} {b : Value} (hbase : Evaluates ctx base (.ok b))
      (h : b.member? name = none) :
      Evaluates ctx (.member base name) (.error (.memberNotFound name b.kind))
  | memberOfFault {base : Expr} {name : String} {cause : LookupError}
      (hbase : Evaluates ctx base (.error cause)) :
      Evaluates ctx (.member base name) (.error cause)
  | item {base key : Expr} {b k v : Value} (hbase : Evaluates ctx base (.ok b))
      (hkey : Evaluates ctx key (.ok k)) (h : b.item? k = some v) :
      Evaluates ctx (.item base key) (.ok v)
  | noItem {base key : Expr} {b k : Value} (hbase : Evaluates ctx base (.ok b))
      (hkey : Evaluates ctx key (.ok k)) (h : b.item? k = none) :
      Evaluates ctx (.item base key) (.error (.indexNotFound k.inspect b.kind))
  /-- The key is not evaluated if the base has no value. -/
  | itemOfFault {base key : Expr} {cause : LookupError}
      (hbase : Evaluates ctx base (.error cause)) : Evaluates ctx (.item base key) (.error cause)
  | itemAtFault {base key : Expr} {b : Value} {cause : LookupError}
      (hbase : Evaluates ctx base (.ok b)) (hkey : Evaluates ctx key (.error cause)) :
      Evaluates ctx (.item base key) (.error cause)

/-! ### Accesses that are put off -/

theorem applyAll_append (before after : List Access) (v : Operand) :
    applyAll (before ++ after) v = applyAll before v >>= applyAll after :=
  List.foldlM_append

theorem applyAll_singleton (access : Access) (v : Operand) : applyAll [access] v = access v :=
  (List.foldlM_cons).trans (bind_pure _)

/-- The accesses that were put off are applied to the result of what is before them. -/
theorem evalOnto_eq_bind (ctx : Context) (e : Expr) (accesses : List Access) :
    e.evalOnto ctx accesses = e.evalOnto ctx [] >>= applyAll accesses := by
  induction e generalizing accesses with
  | literal v => rfl
  | lookup name =>
    simp only [evalOnto]
    cases ctx.getVariable name <;> rfl
  | member base name ih =>
    rw [evalOnto, evalOnto, ih, ih [_], bind_assoc]
    simp only [← applyAll_append, List.singleton_append]
  | item base key ih _ =>
    rw [evalOnto, evalOnto, ih, ih [_], bind_assoc]
    simp only [← applyAll_append, List.singleton_append]

theorem eval_lookup (ctx : Context) (name : String) :
    (lookup name).eval ctx = match ctx.get? name with
      | some v => .ok v
      | none => .error (.keyNotFound name) := by
  rw [eval, evalOnto, Context.getVariable]
  cases ctx.get? name <;> rfl

/-- A member is taken of the value of the base. -/
theorem eval_member (ctx : Context) (base : Expr) (name : String) :
    (member base name).eval ctx = base.eval ctx >>= fun b => match b.member? name with
      | some v => .ok v
      | none => .error (.memberNotFound name b.kind) := by
  rw [eval, evalOnto, evalOnto_eq_bind, map_bind, eval, bind_map_left]
  refine bind_congr fun b => ?_
  rw [applyAll_singleton]
  exact b.value_getMember name

/-- An item is taken of the value of the base at the value of the key. -/
theorem eval_item (ctx : Context) (base key : Expr) :
    (item base key).eval ctx =
      base.eval ctx >>= fun b => key.eval ctx >>= fun k => match b.item? k with
        | some v => .ok v
        | none => .error (.indexNotFound k.inspect b.kind) := by
  rw [eval, evalOnto, evalOnto_eq_bind, map_bind, eval, bind_map_left]
  refine bind_congr fun b => ?_
  rw [applyAll_singleton, map_bind, eval, bind_map_left]
  exact bind_congr fun k => b.value_getItem k.value

theorem eval_member_eq_ok_iff {v : Value} :
    (member base name).eval ctx = .ok v ↔
      ∃ b, base.eval ctx = .ok b ∧ b.member? name = some v := by
  rw [eval_member]
  cases base.eval ctx with
  | error cause => simp [bind, Except.bind]
  | ok b => cases h : b.member? name <;> simp [bind, Except.bind, h]

theorem eval_item_eq_ok_iff {v : Value} :
    (item base key).eval ctx = .ok v ↔
      ∃ b k, base.eval ctx = .ok b ∧ key.eval ctx = .ok k ∧ b.item? k = some v := by
  rw [eval_item]
  cases base.eval ctx with
  | error cause => simp [bind, Except.bind]
  | ok b =>
    cases key.eval ctx with
    | error cause => simp [bind, Except.bind]
    | ok k => cases h : b.item? k <;> simp [bind, Except.bind, h]

/-! ### Evaluation by the rules -/

theorem eval_of_evaluates (h : Evaluates ctx e r) : e.eval ctx = r := by
  induction h with
  | literal => rfl
  | known h => rw [eval_lookup, h]
  | unknown h => rw [eval_lookup, h]
  | member _ h ih =>
    rw [eval_member, ih]
    simp only [bind, Except.bind, h]
  | noMember _ h ih =>
    rw [eval_member, ih]
    simp only [bind, Except.bind, h]
  | memberOfFault _ ih =>
    rw [eval_member, ih]
    rfl
  | item _ _ h ihbase ihkey =>
    rw [eval_item, ihbase, ihkey]
    simp only [bind, Except.bind, h]
  | noItem _ _ h ihbase ihkey =>
    rw [eval_item, ihbase, ihkey]
    simp only [bind, Except.bind, h]
  | itemOfFault _ ih =>
    rw [eval_item, ih]
    rfl
  | itemAtFault _ _ ihbase ihkey =>
    rw [eval_item, ihbase, ihkey]
    rfl

/-- Every expression is evaluated by some rule. -/
theorem exists_evaluates (ctx : Context) (e : Expr) : ∃ r, Evaluates ctx e r := by
  induction e with
  | literal v => exact ⟨_, .literal⟩
  | lookup name =>
    cases h : ctx.get? name with
    | some v => exact ⟨_, .known h⟩
    | none => exact ⟨_, .unknown h⟩
  | member base name ih =>
    obtain ⟨_ | b, hbase⟩ := ih
    · exact ⟨_, .memberOfFault hbase⟩
    · cases h : b.member? name with
      | some v => exact ⟨_, .member hbase h⟩
      | none => exact ⟨_, .noMember hbase h⟩
  | item base key ihbase ihkey =>
    obtain ⟨_ | b, hbase⟩ := ihbase
    · exact ⟨_, .itemOfFault hbase⟩
    · obtain ⟨_ | k, hkey⟩ := ihkey
      · exact ⟨_, .itemAtFault hbase hkey⟩
      · cases h : b.item? k with
        | some v => exact ⟨_, .item hbase hkey h⟩
        | none => exact ⟨_, .noItem hbase hkey h⟩

/-- Evaluation gives what the rules say, for every expression. No access tells a new value from one
that belongs to the context. -/
theorem evaluates_iff_eval_eq (ctx : Context) :
    (∀ e r, Evaluates ctx e r ↔ e.eval ctx = r) ∧
      ∀ v : Value,
        (∀ name, Operand.value <$> (Operand.shared v).getMember name =
          Operand.value <$> (Operand.fresh v).getMember name) ∧
        ∀ key, Operand.value <$> (Operand.shared v).getItem key =
          Operand.value <$> (Operand.fresh v).getItem key := by
  refine ⟨fun e r => ⟨eval_of_evaluates, ?_⟩, fun v => ⟨fun name => ?_, fun key => ?_⟩⟩
  · rintro rfl
    obtain ⟨r, h⟩ := exists_evaluates ctx e
    rwa [eval_of_evaluates h]
  · rw [Operand.value_getMember, Operand.value_getMember]
    rfl
  · rw [Operand.value_getItem, Operand.value_getItem]
    rfl

/-- A character of a string is new, and so is its own first character. -/
example : evalOnto (.ofList [("word", .string "hey")])
    (.item (.item (.lookup "word") (.literal (.int 0))) (.literal (.int (-1)))) [] =
      .ok (.fresh (.string "h")) := rfl

end Expr

end TextTemplate
