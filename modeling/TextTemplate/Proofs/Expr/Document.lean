import Mathlib.Data.List.Induction
import TextTemplate.Proofs.Expr.Evaluation
import TextTemplate.Proofs.Value.Position

/-!
# Paths in documents

The variables of a template often come from a JSON document. To read a path such as
`users[-1].name` of them is the same as to walk through the document itself, from one part to the
next: the document as a value has the parts of the document, each as a value again. The two differ
in one point. A string has characters as a value, but no parts as a document, so the walk must not
index into strings.

The parts of a document are described for themselves here, with positions as integers. How an
expression finds the position of an item is a matter of `Value.position?`.

## Main definitions

* `PathStep`, `Expr.path`: the expression that takes some steps from a variable.
* `Json.step?`, `Json.walk`: the part of a document to which steps lead.
* `Json.AvoidsCharacters`: a walk does not index into strings.

## Main results

* `Value.step?_ofJson`: the parts of a document as a value.
* `Context.eval_path_ofJson`: a path is evaluated to the value of what the walk leads to.
-/

namespace TextTemplate

/-- A step from a value to one of its parts. -/
inductive PathStep where
  /-- To the member with a name, written `.name`. -/
  | member (name : String)
  /-- To the item at a name, written `['name']`. -/
  | key (name : String)
  /-- To the item at an index, written `[i]`. -/
  | index (i : Int64)

/-! ### Walks through documents -/

namespace Json

/-- The item of an array at an index, which counts from the end if it is negative. -/
def item? (items : List Json) (i : Int) : Option Json :=
  if -(items.length : Int) ≤ i ∧ i < items.length then
    items[(if i < 0 then items.length + i else i).toNat]?
  else none

/-- The part of a document to which a step leads. Only objects have members, of which the last one
with a name counts, and only arrays have items at indices. -/
def step? : Json → PathStep → Option Json
  | .object members, .member name | .object members, .key name => members.reverse.lookup name
  | .array items, .index i => item? items i.toInt
  | _, _ => none

/-- The part of a document to which some steps lead, one after the other. -/
def walk (j : Json) (steps : List PathStep) : Option Json :=
  steps.foldlM step? j

/-- No step of a walk is an index into a string. -/
def AvoidsCharacters (j : Json) (steps : List PathStep) : Prop :=
  ∀ before i s, before ++ [.index i] <+: steps → j.walk before ≠ some (.string s)

theorem walk_append_singleton (j : Json) (steps : List PathStep) (step : PathStep) :
    j.walk (steps ++ [step]) = (j.walk steps).bind (·.step? step) := by
  rw [walk, List.foldlM_append]
  exact bind_congr fun r => bind_pure (r.step? step)

theorem avoidsCharacters_nil (j : Json) : j.AvoidsCharacters [] := by
  intro before i s hbefore
  exact absurd (List.prefix_nil.1 hbefore) (List.append_ne_nil_of_right_ne_nil before nofun)

/-- A walk does not index into strings if it does not before its last step, and then not in this
step. -/
theorem avoidsCharacters_append_singleton_iff (j : Json) (steps : List PathStep)
    (step : PathStep) :
    j.AvoidsCharacters (steps ++ [step]) ↔ j.AvoidsCharacters steps ∧
      ∀ i s, step = .index i → j.walk steps ≠ some (.string s) := by
  constructor
  · intro h
    refine ⟨fun before i s hbefore => h before i s (hbefore.trans (List.prefix_append ..)), ?_⟩
    rintro i s rfl
    exact h steps i s List.prefix_rfl
  · rintro ⟨hsteps, hstep⟩ before i s hbefore
    obtain hlast | hbefore := List.prefix_concat_iff.1 hbefore
    · obtain ⟨rfl, hindex⟩ := List.append_inj' hlast rfl
      exact hstep i s (List.singleton_inj.1 hindex).symm
    · exact hsteps before i s hbefore

end Json

/-! ### Steps between values -/

namespace Value

theorem element?_eq_item? (items : List Json) (i : Int64) :
    element? items i = Json.item? items i.toInt :=
  element?_eq_ite items i

/-- The part of a value to which a step leads. -/
def step? (v : Value) : PathStep → Option Value
  | .member name => v.member? name
  | .key name => v.item? (.string name)
  | .index i => v.item? (.int i)

theorem ofJsonItems_eq_map (items : List Json) : ofJsonItems items = items.map ofJson := by
  induction items with
  | nil => rfl
  | cons j items ih => rw [ofJsonItems, ih, List.map_cons]

theorem lookup_ofJsonMembers (members : List (String × Json)) (name : String) :
    (Entries.ofList (ofJsonMembers members)).lookup name =
      (members.reverse.lookup name).map ofJson := by
  rw [Entries.lookup_ofList]
  induction members with
  | nil => rfl
  | cons m members ih =>
    rw [ofJsonMembers, List.reverse_cons, List.reverse_cons, List.lookup_append,
      List.lookup_append, ih, Option.map_or, Entries.lookup_cons_eq_ite,
      Entries.lookup_cons_eq_ite]
    split <;> rfl

theorem step?_ofInt (n : Int) (step : PathStep) : (ofInt n).step? step = none := by
  rw [ofInt]
  split <;> cases step <;> rfl

/-- A step leads from a document as a value to the part of the document as a value. An index leads
from a string to a character, which is no part of the document. -/
theorem step?_ofJson {j : Json} {step : PathStep} (h : ∀ i s, step = .index i → j ≠ .string s) :
    (ofJson j).step? step = (j.step? step).map ofJson := by
  cases j with
  | null | bool | real => cases step <;> rfl
  | integer n =>
    rw [ofJson, step?_ofInt]
    cases step <;> rfl
  | string s =>
    cases step with
    | member | key => rfl
    | index i => exact absurd rfl (h i s rfl)
  | array items =>
    cases step with
    | member | key => rfl
    | index i =>
      rw [ofJson, ofJsonItems_eq_map]
      exact (element?_map ofJson items i).trans (congrArg _ (element?_eq_item? items i))
  | object members =>
    cases step with
    | member name | key name => exact lookup_ofJsonMembers members name
    | index => rfl

end Value

/-! ### Paths -/

namespace Expr

/-- An expression followed by a step. -/
def followedBy (base : Expr) : PathStep → Expr
  | .member name => .member base name
  | .key name => .item base (.literal (.string name))
  | .index i => .item base (.literal (.int i))

/-- A variable followed by some steps. -/
def path (name : String) (steps : List PathStep) : Expr :=
  steps.foldl followedBy (.lookup name)

theorem path_append_singleton (name : String) (steps : List PathStep) (step : PathStep) :
    path name (steps ++ [step]) = (path name steps).followedBy step :=
  List.foldl_append

theorem toOption_eval_lookup (ctx : Context) (name : String) :
    ((lookup name).eval ctx).toOption = ctx.get? name := by
  rw [eval_lookup]
  cases ctx.get? name <;> rfl

/-- What is found in a value, and else reported as missing. -/
theorem toOption_bind_find {x : Except LookupError Value} (find : Value → Option Value)
    (cause : Value → LookupError) :
    (x >>= fun b => match find b with
      | some v => .ok v
      | none => .error (cause b)).toOption = x.toOption.bind find := by
  cases x with
  | error => rfl
  | ok b => cases h : find b <;> simp [bind, Except.bind, Except.toOption, h]

/-- A step is taken from the value of what is before it. -/
theorem toOption_eval_followedBy (ctx : Context) (base : Expr) (step : PathStep) :
    ((base.followedBy step).eval ctx).toOption =
      (base.eval ctx).toOption.bind (·.step? step) := by
  cases step with
  | member name =>
    rw [followedBy, eval_member]
    exact toOption_bind_find (·.member? name) fun b => .memberNotFound name b.kind
  | key name =>
    rw [followedBy, eval_item]
    exact toOption_bind_find (·.item? (.string name))
      fun b => .indexNotFound (Value.string name).inspect b.kind
  | index i =>
    rw [followedBy, eval_item]
    exact toOption_bind_find (·.item? (.int i))
      fun b => .indexNotFound (Value.int i).inspect b.kind

/-- If a variable stands for a member of a document, then a path from this variable is evaluated to
the value of what the walk from the document leads to. -/
theorem toOption_eval_path {ctx : Context} {j : Json} {name : String}
    (hname : ctx.get? name = (j.step? (.member name)).map Value.ofJson) {steps : List PathStep}
    (h : j.AvoidsCharacters (.member name :: steps)) :
    ((path name steps).eval ctx).toOption =
      (j.walk (.member name :: steps)).map Value.ofJson := by
  induction steps using List.reverseRecOn with
  | nil =>
    have hwalk : j.walk [.member name] = j.step? (.member name) := bind_pure _
    rw [hwalk, ← hname]
    exact toOption_eval_lookup ctx name
  | append_singleton steps step ih =>
    rw [← List.cons_append, Json.avoidsCharacters_append_singleton_iff] at h
    rw [path_append_singleton, toOption_eval_followedBy, ih h.1, ← List.cons_append,
      Json.walk_append_singleton, Option.bind_map, Option.map_bind]
    exact Option.bind_congr fun r hr =>
      Value.step?_ofJson fun i s hstep hs => h.2 i s hstep (hs ▸ hr)

end Expr

/-! ### Documents as contexts -/

namespace Value

theorem ofInt_ne_map (n : Int) (entries : List (String × Value)) : ofInt n ≠ .map entries := by
  rw [ofInt]
  split <;> nofun

/-- Only an object is a map as a value. -/
theorem ofJson_ne_map {j : Json} (h : ∀ members, j ≠ .object members)
    (entries : List (String × Value)) : ofJson j ≠ .map entries := by
  cases j with
  | integer n => exact ofInt_ne_map n entries
  | object members => exact absurd rfl (h members)
  | null | bool | real | string | array => nofun

end Value

namespace Context

theorem get?_ofEntries (members : List (String × Json)) (name : String) :
    (Bindings.ofList (Entries.ofList (Value.ofJsonMembers members))).get? name =
      ((Json.object members).step? (.member name)).map Value.ofJson := by
  rw [Bindings.get?_ofList, Entries.lookup_reverse (Entries.ascending_ofList _)]
  exact Value.lookup_ofJsonMembers members name

/-- Only a map gives a context. -/
theorem ofValue_of_ne_map {v : Value} (h : ∀ entries, v ≠ .map entries) :
    ofValue v = .error (.context s!"expected a map of variables, found {v.kind.name}") := by
  cases v with
  | map entries => exact absurd rfl (h entries)
  | null | bool | int | float | string | list => rfl

/-- A document that is no object gives no context. -/
theorem ofJson_eq_error_iff {j : Json} {err : Error} :
    ofJson j = .error err ↔ (∀ members, j ≠ .object members) ∧
      err = .context s!"expected a map of variables, found {(Value.ofJson j).kind.name}" := by
  constructor
  · intro h
    have hj : ∀ members, j ≠ .object members := by
      rintro members rfl
      cases h
    rw [ofJson, ofValue_of_ne_map (Value.ofJson_ne_map hj)] at h
    exact ⟨hj, (Except.error.inj h).symm⟩
  · rintro ⟨hj, rfl⟩
    exact ofValue_of_ne_map (Value.ofJson_ne_map hj)

/-- A document gives a context if it is an object. A path is then evaluated in this context to the
value of what the walk through the document leads to, and fails if the walk does, unless the walk
would index into a string. Program data gives the context of its document. -/
theorem eval_path_ofJson :
    (∀ members, ∃ ctx, ofJson (.object members) = .ok ctx ∧
      ∀ name steps, (Json.object members).AvoidsCharacters (.member name :: steps) →
        ((Expr.path name steps).eval ctx).toOption =
          ((Json.object members).walk (.member name :: steps)).map Value.ofJson) ∧
    (∀ j err, ofJson j = .error err ↔ (∀ members, j ≠ .object members) ∧
      err = .context s!"expected a map of variables, found {(Value.ofJson j).kind.name}") ∧
    ∀ d j, d.toJson = .ok j → ofData d = ofJson j := by
  refine ⟨fun members => ⟨_, rfl, fun name steps h => ?_⟩, fun j err => ofJson_eq_error_iff,
    fun d j hd => ?_⟩
  · exact Expr.toOption_eval_path (get?_ofEntries members name) h
  · rw [ofData, hd]

/-- The path leads to the name of the last user. -/
theorem eval_path_ofJson_last_user :
    let users : Json :=
      .array [.object [("name", .string "Ada")], .object [("name", .string "Bob")]]
    let d : Data := .map [(.string "users", .seq [.map [(.string "name", .string "Ada")],
      .map [(.string "name", .string "Bob")]])]
    let steps : List PathStep := [.index (-1), .key "name"]
    (Json.object [("users", users)]).AvoidsCharacters (.member "users" :: steps) ∧
      ∃ ctx, ofData d = .ok ctx ∧
        ((Expr.path "users" steps).eval ctx).toOption = some (.string "Bob") := by
  intro users d steps
  obtain ⟨ctx, hctx, hpath⟩ := eval_path_ofJson.1 [("users", users)]
  have hwalk : (Json.object [("users", users)]).walk [.member "users"] = some users := rfl
  have havoids : (Json.object [("users", users)]).AvoidsCharacters (.member "users" :: steps) := by
    refine (Json.avoidsCharacters_append_singleton_iff _ [_, _] _).2 ⟨?_, nofun⟩
    refine (Json.avoidsCharacters_append_singleton_iff _ [_] _).2 ⟨?_, fun i s _ => ?_⟩
    · exact (Json.avoidsCharacters_append_singleton_iff _ [] _).2
        ⟨Json.avoidsCharacters_nil _, nofun⟩
    · simp [hwalk, users]
  have hdata : ofData d = ofJson (.object [("users", users)]) := eval_path_ofJson.2.2 d _ rfl
  exact ⟨havoids, ctx, hdata.trans hctx, hpath "users" steps havoids⟩

end Context

end TextTemplate
