import TextTemplate.Proofs.Expr.Evaluation

/-!
# Members as items

The member of a value with some name is its item at this name, written as a string: a map has its
entries as members and as items, and no other value has members or items at strings. So the accesses
`.name` of an expression may be written as `['name']`, any of them, wherever they stand: in the base
of another access, in a key, and inside each other. What changes is the wording of one failure. An
item that is missing is reported with the key, a member with the name, and this shows exactly if the
access that fails is one of those that were rewritten.

To say which access that is, sub-terms have places. The place of a sub-term does not change when
accesses around it are rewritten, since a rewritten access keeps its base.

## Main definitions

* `Expr.Place`, `Expr.FailsAt`: the place of a sub-term, and the one at which evaluation fails.
* `Expr.asItems`: an expression with items in the place of some members.
* `LookupError.asItem`: the failure of a member access as that of an index.

## Main results

* `Value.item?_string`: the item at a string is the member with this name.
* `Expr.eval_eq_error_iff`: evaluation fails if it fails at some place.
* `Expr.eval_asItems`: an expression with items in the place of members has the same value, or fails
  at the same place.
-/

namespace TextTemplate

/-- The item of a value at a string is the member with this name. -/
theorem Value.item?_string (v : Value) (name : String) :
    v.item? (.string name) = v.member? name := by
  cases v <;> rfl

/-- The failure of a member access as the failure of the index that has the name as its key. Other
failures are the same for both. -/
def LookupError.asItem : LookupError → LookupError
  | keyNotFound name => keyNotFound name
  | memberNotFound name kind => indexNotFound (Value.string name).inspect kind
  | indexNotFound index kind => indexNotFound index kind

namespace Expr

variable {ctx : Context} {e : Expr} {v : Value} {cause : LookupError}

/-! ### Places -/

/-- The two parts of an access. -/
inductive Part where
  | base
  | key
  deriving DecidableEq, Repr

/-- The place of a sub-term: the parts on the way to it, from the whole expression inwards. -/
abbrev Place := List Part

/-- The place of the sub-term at which the evaluation of an expression fails, and the failure. The
base of an access is evaluated before its key, and the key before there is an access. -/
inductive FailsAt (ctx : Context) : Expr → Place → LookupError → Prop where
  | unknown {name : String} (h : ctx.get? name = none) :
      FailsAt ctx (.lookup name) [] (.keyNotFound name)
  | noMember {base : Expr} {name : String} {b : Value} (hbase : base.eval ctx = .ok b)
      (h : b.member? name = none) :
      FailsAt ctx (.member base name) [] (.memberNotFound name b.kind)
  | noItem {base key : Expr} {b k : Value} (hbase : base.eval ctx = .ok b)
      (hkey : key.eval ctx = .ok k) (h : b.item? k = none) :
      FailsAt ctx (.item base key) [] (.indexNotFound k.inspect b.kind)
  | memberBase {base : Expr} {name : String} {place : Place} {cause : LookupError}
      (hbase : FailsAt ctx base place cause) :
      FailsAt ctx (.member base name) (.base :: place) cause
  | itemBase {base key : Expr} {place : Place} {cause : LookupError}
      (hbase : FailsAt ctx base place cause) :
      FailsAt ctx (.item base key) (.base :: place) cause
  | itemKey {base key : Expr} {b : Value} {place : Place} {cause : LookupError}
      (hbase : base.eval ctx = .ok b) (hkey : FailsAt ctx key place cause) :
      FailsAt ctx (.item base key) (.key :: place) cause

theorem FailsAt.eval_eq_error {place : Place} (h : e.FailsAt ctx place cause) :
    e.eval ctx = .error cause := by
  induction h with
  | unknown h => rw [eval_lookup, h]
  | noMember hbase h =>
    rw [eval_member, hbase]
    simp only [bind, Except.bind, h]
  | noItem hbase hkey h =>
    rw [eval_item, hbase, hkey]
    simp only [bind, Except.bind, h]
  | memberBase _ ih =>
    rw [eval_member, ih]
    rfl
  | itemBase _ ih =>
    rw [eval_item, ih]
    rfl
  | itemKey hbase _ ih =>
    rw [eval_item, hbase, ih]
    rfl

/-- An expression has a value, or its evaluation fails at some place. -/
theorem exists_eval_eq_ok_or_failsAt (ctx : Context) (e : Expr) :
    (∃ v, e.eval ctx = .ok v) ∨ ∃ place cause, e.FailsAt ctx place cause := by
  induction e with
  | literal v => exact Or.inl ⟨v, rfl⟩
  | lookup name =>
    cases h : ctx.get? name with
    | some v => exact Or.inl ⟨v, by rw [eval_lookup, h]⟩
    | none => exact Or.inr ⟨_, _, .unknown h⟩
  | member base name ih =>
    obtain ⟨b, hbase⟩ | ⟨place, cause, hbase⟩ := ih
    · cases h : b.member? name with
      | some v => exact Or.inl ⟨v, eval_member_eq_ok_iff.2 ⟨b, hbase, h⟩⟩
      | none => exact Or.inr ⟨_, _, .noMember hbase h⟩
    · exact Or.inr ⟨_, _, .memberBase hbase⟩
  | item base key ihbase ihkey =>
    obtain ⟨b, hbase⟩ | ⟨place, cause, hbase⟩ := ihbase
    · obtain ⟨k, hkey⟩ | ⟨place, cause, hkey⟩ := ihkey
      · cases h : b.item? k with
        | some v => exact Or.inl ⟨v, eval_item_eq_ok_iff.2 ⟨b, k, hbase, hkey, h⟩⟩
        | none => exact Or.inr ⟨_, _, .noItem hbase hkey h⟩
      · exact Or.inr ⟨_, _, .itemKey hbase hkey⟩
    · exact Or.inr ⟨_, _, .itemBase hbase⟩

/-- Evaluation fails if it fails at some place. -/
theorem eval_eq_error_iff : e.eval ctx = .error cause ↔ ∃ place, e.FailsAt ctx place cause := by
  refine ⟨fun h => ?_, fun ⟨_, h⟩ => h.eval_eq_error⟩
  obtain ⟨v, hv⟩ | ⟨place, cause', hplace⟩ := exists_eval_eq_ok_or_failsAt ctx e
  · rw [h] at hv
    cases hv
  · obtain rfl : cause = cause' := Except.error.inj (h.symm.trans hplace.eval_eq_error)
    exact ⟨place, hplace⟩

/-! ### Items in the place of members -/

/-- The expression with `base['name']` in the place of `base.name`, at the selected places. -/
def asItems : Expr → (Place → Bool) → Expr
  | .literal v, _ => .literal v
  | .lookup name, _ => .lookup name
  | .member base name, selected =>
    if selected [] then
      .item (base.asItems fun p => selected (.base :: p)) (.literal (.string name))
    else .member (base.asItems fun p => selected (.base :: p)) name
  | .item base key, selected =>
    .item (base.asItems fun p => selected (.base :: p)) (key.asItems fun p => selected (.key :: p))

theorem eval_asItems_of_eval_eq_ok (h : e.eval ctx = .ok v) (selected : Place → Bool) :
    (e.asItems selected).eval ctx = .ok v := by
  induction e generalizing v selected with
  | literal | lookup => exact h
  | member base name ih =>
    obtain ⟨b, hbase, hmember⟩ := eval_member_eq_ok_iff.1 h
    rw [asItems]
    split
    · rw [← Value.item?_string] at hmember
      exact eval_item_eq_ok_iff.2 ⟨b, .string name, ih hbase _, rfl, hmember⟩
    · exact eval_member_eq_ok_iff.2 ⟨b, ih hbase _, hmember⟩
  | item base key ihbase ihkey =>
    obtain ⟨b, k, hbase, hkey, hitem⟩ := eval_item_eq_ok_iff.1 h
    exact eval_item_eq_ok_iff.2 ⟨b, k, ihbase hbase _, ihkey hkey _, hitem⟩

/-- What fails at a place still does, as an index if the access there is rewritten. -/
theorem FailsAt.asItems {place : Place} (h : e.FailsAt ctx place cause) (selected : Place → Bool) :
    (e.asItems selected).FailsAt ctx place (if selected place then cause.asItem else cause) := by
  induction h generalizing selected with
  | unknown h =>
    rw [Expr.asItems, LookupError.asItem, ite_self]
    exact .unknown h
  | noMember hbase h =>
    have hbase' := eval_asItems_of_eval_eq_ok hbase fun p => selected (.base :: p)
    rw [Expr.asItems]
    split
    · rw [← Value.item?_string] at h
      exact .noItem hbase' rfl h
    · exact .noMember hbase' h
  | noItem hbase hkey h =>
    rw [LookupError.asItem, ite_self]
    exact .noItem (eval_asItems_of_eval_eq_ok hbase _) (eval_asItems_of_eval_eq_ok hkey _) h
  | memberBase _ ih =>
    rw [Expr.asItems]
    split
    · exact .itemBase (ih _)
    · exact .memberBase (ih _)
  | itemBase _ ih => exact .itemBase (ih _)
  | itemKey hbase _ ih => exact .itemKey (eval_asItems_of_eval_eq_ok hbase _) (ih _)

/-- Any member accesses of an expression may be written as indices: the expression has a value if
it had one before, and the same one. If it has none, its evaluation fails where it failed before,
and in the same way unless it is a rewritten access that fails. -/
theorem eval_asItems (ctx : Context) (e : Expr) (selected : Place → Bool) :
    (∀ v, (e.asItems selected).eval ctx = .ok v ↔ e.eval ctx = .ok v) ∧
      (∀ cause, e.eval ctx = .error cause ↔ ∃ place, e.FailsAt ctx place cause) ∧
      ∀ place cause, e.FailsAt ctx place cause →
        let cause' := if selected place then cause.asItem else cause
        (e.asItems selected).FailsAt ctx place cause' ∧
          (e.asItems selected).eval ctx = .error cause' := by
  refine ⟨fun v => ⟨fun h => ?_, fun h => eval_asItems_of_eval_eq_ok h selected⟩,
    fun cause => eval_eq_error_iff, fun place cause h => ?_⟩
  · cases he : e.eval ctx with
    | ok w => rw [← h, eval_asItems_of_eval_eq_ok he selected]
    | error cause =>
      obtain ⟨place, hplace⟩ := eval_eq_error_iff.1 he
      rw [(hplace.asItems selected).eval_eq_error] at h
      cases h
  · exact ⟨h.asItems selected, (h.asItems selected).eval_eq_error⟩

/-- The access that fails stands in the key of another one, and its base is a new character. -/
theorem eval_asItems_key :
    let ctx : Context := .ofList [("user", .map [("name", .string "Ada")]), ("word", .string "hey")]
    let initial : Expr := .item (.lookup "word") (.literal (.int 0))
    let e : Expr := .member (.item (.lookup "user") (.member initial "up")) "name"
    e.FailsAt ctx [.base, .key] (.memberNotFound "up" .string) ∧
      (e.asItems fun _ => true).eval ctx = .error (.indexNotFound "\"up\"" .string) ∧
      (e.asItems (· = [])).eval ctx = .error (.memberNotFound "up" .string) := by
  intro ctx initial e
  have hfails : e.FailsAt ctx [.base, .key] (.memberNotFound "up" .string) :=
    .memberBase (.itemKey rfl (.noMember (b := .string "h") rfl rfl))
  exact ⟨hfails, ((eval_asItems ctx e fun _ => true).2.2 _ _ hfails).2,
    ((eval_asItems ctx e (· = [])).2.2 _ _ hfails).2⟩

end Expr

end TextTemplate
