import Mathlib
import TextTemplate.Context

/-!
# Contexts and their histories

A context is written in three ways: a variable is set, several pairs of a name and a value are
added, or it is made anew from pairs. All that is left of such a history is the last pair for each
name among those that have been written since the context was made. A later pair for the same name
replaces an earlier one whether it comes alone or in bulk, and pairs for different names do not
matter to each other.

Contexts are compared by what they give to names, with values compared by `Value.beq`. This is the
same as to compare their entries, since the entries are kept in the order of the names. As a NaN
differs from itself, a context in which one occurs differs from itself too.

## Main definitions

* `Bindings.Write`, `Bindings.after`, `Bindings.written`: ways to write bindings, the bindings after
  some of them, and the pairs that have been written.
* `Bindings.LastWrite`, `Bindings.Reflects`: the last pair for a name, and bindings that know the
  last pairs of a list and nothing else.
* `Value.NaNFree`: values without NaN at any depth.

## Main results

* `Bindings.eq_of_get?_eq`: bindings are known by what they bind.
* `Bindings.reflects_ofList`: the bindings of some pairs.
* `Context.beq_iff_get?_beq`: contexts are equal if their answers are.
* `Context.reflects_after`: what a context is after any history.
-/

namespace TextTemplate

variable {α β : Type}

/-! ### Entries in ascending order -/

namespace Entries

variable {R : α → β → Prop} {as : List (String × α)} {bs : List (String × β)}

theorem lookup_eq_none_of_lt {name : String} (h : ∀ e ∈ as, name < e.1) :
    as.lookup name = none :=
  List.lookup_eq_none_iff.2 fun e he => bne_iff_ne.2 (String.ne_of_lt (h e he))

/-- Entries that are related one by one bind related things. -/
theorem rel_lookup_of_forall₂ (h : List.Forall₂ (fun a b => a.1 = b.1 ∧ R a.2 b.2) as bs)
    (name : String) : Option.Rel R (as.lookup name) (bs.lookup name) := by
  induction h with
  | nil => exact .none
  | @cons a b _ _ hab _ ih =>
    rw [lookup_cons_eq_ite, lookup_cons_eq_ite, ← hab.1]
    split
    · exact .some hab.2
    · exact ih

/-- Entries in order that bind related things are related one by one: the first names are equal,
since neither is behind all names on the other side. -/
theorem forall₂_of_rel_lookup (has : Ascending as) (hbs : Ascending bs)
    (h : ∀ name, Option.Rel R (as.lookup name) (bs.lookup name)) :
    List.Forall₂ (fun a b => a.1 = b.1 ∧ R a.2 b.2) as bs := by
  induction as generalizing bs with
  | nil =>
    cases bs with
    | nil => exact .nil
    | cons b bs =>
      have hb := h b.1
      rw [lookup_cons_eq_ite, if_pos rfl] at hb
      cases hb
  | cons a as ih =>
    obtain ⟨ha, has'⟩ := List.pairwise_cons.1 has
    cases bs with
    | nil =>
      have hfirst := h a.1
      rw [lookup_cons_eq_ite, if_pos rfl] at hfirst
      cases hfirst
    | cons b bs =>
      obtain ⟨hb, hbs'⟩ := List.pairwise_cons.1 hbs
      have hle : ¬ a.1 < b.1 := fun hlt => by
        have hfirst := h a.1
        rw [lookup_cons_eq_ite, if_pos rfl, lookup_eq_none_of_lt
          (List.forall_mem_cons.2 ⟨hlt, fun e he => String.lt_trans hlt (hb e he)⟩)] at hfirst
        cases hfirst
      have hge : ¬ b.1 < a.1 := fun hlt => by
        have hfirst := h b.1
        rw [lookup_cons_eq_ite b.1 b, if_pos rfl, lookup_eq_none_of_lt
          (List.forall_mem_cons.2 ⟨hlt, fun e he => String.lt_trans hlt (ha e he)⟩)] at hfirst
        cases hfirst
      have hname : a.1 = b.1 := String.le_antisymm (String.not_lt.1 hge) (String.not_lt.1 hle)
      have hvalue : R a.2 b.2 := by
        have hfirst := h a.1
        rw [lookup_cons_eq_ite, lookup_cons_eq_ite, if_pos rfl, if_pos hname] at hfirst
        cases hfirst
        assumption
      refine .cons ⟨hname, hvalue⟩ (ih has' hbs' fun name => ?_)
      by_cases hfirst : name = a.1
      · rw [hfirst, lookup_eq_none_of_lt ha, lookup_eq_none_of_lt (hname ▸ hb)]
        exact .none
      · have hrest := h name
        rwa [lookup_cons_eq_ite, lookup_cons_eq_ite, if_neg hfirst, if_neg (hname ▸ hfirst)]
          at hrest

theorem nodup_of_ascending (has : Ascending as) : (as.map (·.1)).Nodup :=
  List.pairwise_map.2 (has.imp String.ne_of_lt)

theorem lookup_isSome_iff (name : String) :
    (as.lookup name).isSome = true ↔ name ∈ as.map (·.1) := by
  induction as with
  | nil => simp
  | cons a as ih =>
    rw [lookup_cons_eq_ite, List.map_cons, List.mem_cons, ← ih]
    split
    · next h => simp [h]
    · next h => simp [h]

end Entries

/-! ### Bindings and their histories -/

namespace Bindings

variable {b b' : Bindings α} {pairs : List (String × α)} {name : String} {value : α}

theorem eq_of_entries_eq (h : b.entries = b'.entries) : b = b' := by
  cases b
  cases b'
  cases h
  rfl

/-- Bindings that bind the same are the same. -/
theorem eq_of_get?_eq (h : ∀ name, b.get? name = b'.get? name) : b = b' := by
  have hrel (name : String) :
      Option.Rel (· = ·) (b.entries.lookup name) (b'.entries.lookup name) := by
    have hname : b.entries.lookup name = b'.entries.lookup name := h name
    rw [hname]
    cases b'.entries.lookup name with
    | none => exact .none
    | some v => exact .some rfl
  have hentries := Entries.forall₂_of_rel_lookup b.ascending b'.ascending hrel
  simp only [← Prod.ext_iff, List.forall₂_eq_eq_eq] at hentries
  exact eq_of_entries_eq hentries

theorem insert_comm {name other : String} (h : name ≠ other) (b : Bindings α) (value value' : α) :
    (b.insert name value).insert other value' = (b.insert other value').insert name value := by
  refine eq_of_get?_eq fun x => ?_
  simp only [get?_insert]
  by_cases hx : x = name
  · rw [if_pos hx, if_pos hx, if_neg (hx ▸ h)]
  · rw [if_neg hx, if_neg hx]

/-- A way to write bindings. -/
inductive Write (α : Type) where
  /-- Binds a name. -/
  | insert (name : String) (value : α)
  /-- Binds the names of some pairs, one after the other. -/
  | extend (pairs : List (String × α))
  /-- Makes the bindings anew from some pairs. -/
  | collect (pairs : List (String × α))

/-- The bindings that are written. -/
def Write.apply (b : Bindings α) : Write α → Bindings α
  | .insert name value => (b.getThenInsert name value).2
  | .extend pairs => b.extend pairs
  | .collect pairs => ofList pairs

/-- The pairs that have been written since the bindings were made, in their order. -/
def Write.record (pairs : List (String × α)) : Write α → List (String × α)
  | .insert name value => pairs ++ [(name, value)]
  | .extend added => pairs ++ added
  | .collect pairs => pairs

/-- The bindings after a history that begins with no bindings. -/
def after (writes : List (Write α)) : Bindings α :=
  writes.foldl Write.apply empty

/-- The pairs that have been written in a history. -/
def written (writes : List (Write α)) : List (String × α) :=
  writes.foldl Write.record []

theorem ofList_append (pairs added : List (String × α)) :
    ofList (pairs ++ added) = (ofList pairs).extend added :=
  eq_of_entries_eq List.foldl_append

/-- A write to the bindings of some pairs gives the bindings of the pairs that are then written. -/
theorem apply_ofList (write : Write α) (pairs : List (String × α)) :
    write.apply (ofList pairs) = ofList (write.record pairs) := by
  cases write with
  | insert name value => exact (ofList_append pairs [(name, value)]).symm
  | extend added => exact (ofList_append pairs added).symm
  | collect => rfl

/-- After a history there are the bindings of the pairs that have been written. -/
theorem after_eq_ofList (writes : List (Write α)) : after writes = ofList (written writes) := by
  have hrun (pairs : List (String × α)) :
      writes.foldl Write.apply (ofList pairs) = ofList (writes.foldl Write.record pairs) := by
    induction writes generalizing pairs with
    | nil => rfl
    | cons write writes ih =>
      rw [List.foldl_cons, List.foldl_cons, apply_ofList]
      exact ih _
  exact hrun []

/-! ### The last pairs -/

/-- The last pair for a name has some value. -/
def LastWrite (pairs : List (String × α)) (name : String) (value : α) : Prop :=
  ∃ before behind, pairs = before ++ (name, value) :: behind ∧ ∀ e ∈ behind, e.1 ≠ name

/-- Bindings know the last pairs of a list and nothing else. -/
structure Reflects (b : Bindings α) (pairs : List (String × α)) : Prop where
  get?_eq_some_iff : ∀ name value, b.get? name = some value ↔ LastWrite pairs name value
  get?_eq_none_iff : ∀ name, b.get? name = none ↔ name ∉ pairs.map (·.1)
  contains_eq_isSome : ∀ name, b.contains name = (b.get? name).isSome
  /-- Every name is listed once. -/
  nodup_names : b.names.Nodup
  mem_names_iff : ∀ name, name ∈ b.names ↔ name ∈ pairs.map (·.1)
  size_eq : b.size = (pairs.map (·.1)).dedup.length
  isEmpty_iff : b.isEmpty = true ↔ pairs = []

theorem get?_ofList_eq_some_iff :
    (ofList pairs).get? name = some value ↔ LastWrite pairs name value := by
  rw [get?_ofList, List.lookup_eq_some_iff, LastWrite]
  constructor
  · rintro ⟨behind, before, hpairs, hbehind⟩
    refine ⟨before.reverse, behind.reverse, ?_, fun e he => ?_⟩
    · rw [← List.reverse_reverse pairs, hpairs]
      simp
    · exact (bne_iff_ne.1 (hbehind e (List.mem_reverse.1 he))).symm
  · rintro ⟨before, behind, rfl, hbehind⟩
    refine ⟨behind.reverse, before.reverse, by simp, fun e he => ?_⟩
    exact bne_iff_ne.2 (hbehind e (List.mem_reverse.1 he)).symm

theorem isSome_get?_ofList_iff :
    ((ofList pairs).get? name).isSome = true ↔ name ∈ pairs.map (·.1) := by
  rw [get?_ofList, Entries.lookup_isSome_iff, List.map_reverse, List.mem_reverse]

theorem mem_names_ofList_iff : name ∈ (ofList pairs).names ↔ name ∈ pairs.map (·.1) := by
  rw [← isSome_get?_ofList_iff, names, ← Entries.lookup_isSome_iff]
  rfl

/-- The bindings of some pairs know the last ones. -/
theorem reflects_ofList (pairs : List (String × α)) : (ofList pairs).Reflects pairs where
  get?_eq_some_iff _ _ := get?_ofList_eq_some_iff
  get?_eq_none_iff name := by
    rw [← isSome_get?_ofList_iff, Option.not_isSome_iff_eq_none]
  contains_eq_isSome _ := rfl
  nodup_names := Entries.nodup_of_ascending (ofList pairs).ascending
  mem_names_iff _ := mem_names_ofList_iff
  size_eq := by
    have hperm : (ofList pairs).names.Perm (pairs.map (·.1)).dedup :=
      (List.perm_ext_iff_of_nodup (Entries.nodup_of_ascending (ofList pairs).ascending)
        (List.nodup_dedup _)).2 fun name => mem_names_ofList_iff.trans List.mem_dedup.symm
    rw [← hperm.length_eq, names, List.length_map, size]
  isEmpty_iff := by
    have hnames : (ofList pairs).isEmpty = true ↔ (ofList pairs).names = [] := by
      rw [isEmpty, List.isEmpty_iff, names, List.map_eq_nil_iff]
    rw [hnames, List.eq_nil_iff_forall_not_mem, ← List.map_eq_nil_iff (f := (·.1)),
      List.eq_nil_iff_forall_not_mem]
    exact forall_congr' fun name => not_congr mem_names_ofList_iff

/-- After a history bindings know the last pairs that have been written. -/
theorem reflects_written (writes : List (Write α)) :
    (after writes).Reflects (written writes) := by
  rw [after_eq_ofList]
  exact reflects_ofList (written writes)

end Bindings

/-! ### Equality of values -/

namespace Value

variable {v : Value}

theorem beqItems_iff {as bs : List Value} :
    beqItems as bs = true ↔ List.Forall₂ (fun a b => a.beq b = true) as bs := by
  induction as generalizing bs with
  | nil => cases bs <;> simp [beqItems]
  | cons a as ih => cases bs <;> simp [beqItems, ih]

theorem beqEntries_iff {as bs : List (String × Value)} :
    beqEntries as bs = true ↔
      List.Forall₂ (fun a b => a.1 = b.1 ∧ a.2.beq b.2 = true) as bs := by
  induction as generalizing bs with
  | nil => cases bs <;> simp [beqEntries]
  | cons a as ih => cases bs <;> simp [beqEntries, ih]

/-- A value without NaN, inside lists and maps too. -/
inductive NaNFree : Value → Prop where
  | null : NaNFree .null
  | bool (b : Bool) : NaNFree (.bool b)
  | int (n : Int64) : NaNFree (.int n)
  | float {x : Float} (h : x.isNaN = false) : NaNFree (.float x)
  | string (s : String) : NaNFree (.string s)
  | list {items : List Value} (h : ∀ v ∈ items, NaNFree v) : NaNFree (.list items)
  | map {entries : List (String × Value)} (h : ∀ e ∈ entries, NaNFree e.2) :
      NaNFree (.map entries)

/-- A floating-point number that is no NaN equals itself. -/
theorem float_beq_self {x : Float} (h : x.isNaN = false) : (x == x) = true := by
  rw [Float.isNaN_eq_decide_eq_nan, decide_eq_false_iff_not] at h
  exact Float.beq_self_iff.2 h

theorem NaNFree.beq_self (h : v.NaNFree) : v.beq v = true := by
  induction h with
  | null => rfl
  | bool b => simp [beq]
  | int n => simp [beq]
  | float h => exact float_beq_self h
  | string s => simp [beq]
  | list _ ih => exact beqItems_iff.2 (List.forall₂_same.2 ih)
  | map _ ih => exact beqEntries_iff.2 (List.forall₂_same.2 fun e he => ⟨rfl, ih e he⟩)

theorem option_beq_iff_rel {x y : Option Value} :
    (x == y) = true ↔ Option.Rel (fun v w : Value => v.beq w = true) x y := by
  constructor
  · intro h
    match x, y with
    | none, none => exact .none
    | some v, some w => exact .some h
  · rintro (h | _)
    · exact h
    · rfl

end Value

/-! ### Contexts -/

namespace Context

open Bindings

variable {ctx ctx' : Context}

/-- No variable has a value with a NaN in it. -/
def NaNFree (ctx : Context) : Prop :=
  ∀ e ∈ ctx.entries, e.2.NaNFree

/-- Contexts are equal if they give equal answers for all names. -/
theorem beq_iff_get?_beq :
    ctx.beq ctx' = true ↔ ∀ name, (ctx.get? name == ctx'.get? name) = true := by
  rw [beq, Value.beqEntries_iff]
  constructor
  · intro h name
    exact Value.option_beq_iff_rel.2 (Entries.rel_lookup_of_forall₂ h name)
  · intro h
    exact Entries.forall₂_of_rel_lookup ctx.ascending ctx'.ascending fun name =>
      Value.option_beq_iff_rel.1 (h name)

theorem NaNFree.beq_self (h : ctx.NaNFree) : ctx.beq ctx = true :=
  Value.beqEntries_iff.2 (List.forall₂_same.2 fun e he => ⟨rfl, (h e he).beq_self⟩)

/-- After any history a context knows the last pair that has been written for each name. To set a
variable gives back what the context knew about it and changes nothing else. Contexts are equal if
they give equal answers; without NaN this is so if they give the same answers, and then it does not
matter in which order two variables have been set. -/
theorem reflects_after (writes : List (Write Value)) :
    let ctx : Context := after writes
    ctx.Reflects (written writes) ∧
      (∀ name value,
        (ctx.getThenInsert name value).1 = ctx.get? name ∧
        (ctx.getThenInsert name value).2.get? name = some value ∧
        ∀ other ≠ name, (ctx.getThenInsert name value).2.get? other = ctx.get? other) ∧
      (∀ ctx' : Context,
        (ctx.beq ctx' = true ↔ ∀ name, (ctx.get? name == ctx'.get? name) = true) ∧
        (ctx.NaNFree → (∀ name, ctx.get? name = ctx'.get? name) → ctx.beq ctx' = true)) ∧
      ∀ name other value value', name ≠ other →
        let first : Context := (ctx.insert name value).insert other value'
        let second : Context := (ctx.insert other value').insert name value
        first = second ∧ (first.NaNFree → first.beq second = true) := by
  intro ctx
  refine ⟨reflects_written writes, fun name value => ⟨rfl, ?_, fun other hother => ?_⟩,
    fun ctx' => ⟨beq_iff_get?_beq, fun hnan h => ?_⟩, fun name other value value' hne => ?_⟩
  · exact (get?_insert ..).trans (if_pos rfl)
  · exact (get?_insert ..).trans (if_neg hother)
  · exact eq_of_get?_eq h ▸ hnan.beq_self
  · have hcomm := insert_comm hne ctx value value'
    exact ⟨hcomm, fun hnan => hcomm ▸ hnan.beq_self⟩

/-- Variables are set before and after the context is made anew, one of them four times. -/
theorem reflects_after_collect :
    let writes : List (Write Value) :=
      [.insert "old" .null, .collect [("b", .int 1), ("a", .int 2), ("a", .null)],
        .insert "a" (.string "one"), .extend [("c", .bool true), ("b", .int 3), ("a", .int 4)]]
    let first : Context := ((after writes).insert "e" (.float 0.5)).insert "d" .null
    let second : Context := ((after writes).insert "d" .null).insert "e" (.float 0.5)
    (after writes).get? "a" = some (.int 4) ∧ (after writes).get? "old" = none ∧
      (after writes).size = 3 ∧ "e" ≠ "d" ∧ first.NaNFree ∧ first.beq second = true := by
  intro writes first second
  have hnan : first.NaNFree := by
    have hentries : first.entries = [("a", .int 4), ("b", .int 3), ("c", .bool true), ("d", .null),
        ("e", .float 0.5)] := rfl
    rw [NaNFree, hentries]
    simp only [List.forall_mem_cons]
    exact ⟨.int 4, .int 3, .bool true, .null, .float (by decide +kernel), List.forall_mem_nil _⟩
  obtain ⟨hreflects, -, -, hcomm⟩ := reflects_after writes
  refine ⟨(hreflects.get?_eq_some_iff _ _).2
      ⟨(written writes).dropLast, [], rfl, List.forall_mem_nil _⟩,
    (hreflects.get?_eq_none_iff _).2 (by decide), hreflects.size_eq.trans (by decide), by decide,
    hnan, (hcomm "e" "d" (.float 0.5) .null (by decide)).2 hnan⟩

end Context

end TextTemplate
