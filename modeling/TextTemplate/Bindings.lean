/-!
# Bindings of names

Bindings give each of finitely many names one thing. They are kept as a list of entries in ascending
order of the names, so that bindings are equal as soon as they bind the same names to the same
things, and so that whoever lists them sees an order that does not depend on their history.

Names are compared by the code points of their characters.

## Main definitions

* `Entries.insert`: sets the thing bound to a name in a list of entries.
* `Bindings`: entries in ascending order, each name once.
* `Bindings.get?`, `Bindings.insert`, `Bindings.extend`, `Bindings.ofList`.

## Main results

* `Bindings.get?_insert`: what is bound after an insertion.
* `Bindings.get?_ofList`: what is bound by a list of pairs.
-/

namespace TextTemplate

variable {α : Type}

namespace Entries

/-- Binds a name: replaces its entry if there is one, and else adds an entry in its place in the
order. -/
def insert (name : String) (value : α) : List (String × α) → List (String × α)
  | [] => [(name, value)]
  | (k, v) :: rest =>
    if name < k then (name, value) :: (k, v) :: rest
    else if name = k then (name, value) :: rest
    else (k, v) :: insert name value rest

/-- Binds names one after the other, so that the last entry for a name counts. -/
def insertAll (entries : List (String × α)) (added : List (String × α)) : List (String × α) :=
  added.foldl (fun es e => insert e.1 e.2 es) entries

/-- The entries that bind some names one after the other. -/
def ofList (added : List (String × α)) : List (String × α) :=
  insertAll [] added

/-- The names of the entries are in ascending order, so that no name occurs twice. -/
def Ascending (entries : List (String × α)) : Prop :=
  entries.Pairwise fun a b => a.1 < b.1

theorem lookup_cons_eq_ite (k : String) (e : String × α) (entries : List (String × α)) :
    (e :: entries).lookup k = if k = e.1 then some e.2 else entries.lookup k := by
  obtain ⟨k', v⟩ := e
  by_cases h : k = k'
  · simp [h]
  · simp [List.lookup_cons, h, beq_eq_false_iff_ne.2 h]

/-- An insertion binds its own name and leaves the others alone. -/
theorem lookup_insert (name : String) (value : α) (k : String) (entries : List (String × α)) :
    (insert name value entries).lookup k =
      if k = name then some value else entries.lookup k := by
  induction entries with
  | nil => simp [insert, lookup_cons_eq_ite]
  | cons e rest ih =>
    rw [insert]
    split
    · rw [lookup_cons_eq_ite]
    · split
      · next _ h =>
        subst h
        simp only [lookup_cons_eq_ite]
        split <;> rfl
      · next _ h =>
        simp only [lookup_cons_eq_ite, ih]
        by_cases hk : k = e.1
        · simp [hk, Ne.symm h]
        · simp [hk]

theorem mem_insert {name : String} {value : α} {e : String × α} {entries : List (String × α)}
    (h : e ∈ insert name value entries) : e = (name, value) ∨ e ∈ entries := by
  induction entries with
  | nil => exact Or.inl (by simpa [insert] using h)
  | cons e' rest ih =>
    rw [insert] at h
    split at h
    · simpa using h
    · split at h
      · simp only [List.mem_cons] at h ⊢
        exact h.imp_right Or.inr
      · simp only [List.mem_cons] at h ⊢
        rcases h with h | h
        · exact Or.inr (Or.inl h)
        · exact (ih h).imp_right Or.inr

theorem ascending_insert (name : String) (value : α) {entries : List (String × α)}
    (h : Ascending entries) : Ascending (insert name value entries) := by
  induction entries with
  | nil => exact List.pairwise_singleton _ _
  | cons e rest ih =>
    obtain ⟨k, v⟩ := e
    obtain ⟨hk, hrest⟩ := List.pairwise_cons.1 h
    rw [insert]
    split
    · next hlt =>
      refine List.pairwise_cons.2 ⟨fun e' he' => ?_, h⟩
      rcases List.mem_cons.1 he' with rfl | he'
      · exact hlt
      · exact String.lt_trans hlt (hk e' he')
    · split
      · next _ heq =>
        subst heq
        exact List.pairwise_cons.2 ⟨hk, hrest⟩
      · next hlt hne =>
        refine List.pairwise_cons.2 ⟨fun e' he' => ?_, ih hrest⟩
        rcases mem_insert he' with rfl | he'
        · exact Std.lt_of_le_of_ne (String.not_lt.1 hlt) (Ne.symm hne)
        · exact hk e' he'

theorem ascending_insertAll {entries : List (String × α)} (h : Ascending entries)
    (added : List (String × α)) : Ascending (insertAll entries added) := by
  induction added generalizing entries with
  | nil => exact h
  | cons e added ih => exact ih (ascending_insert e.1 e.2 h)

theorem ascending_ofList (added : List (String × α)) : Ascending (ofList added) :=
  ascending_insertAll .nil added

/-- The last of several insertions for a name counts. -/
theorem lookup_insertAll (k : String) (entries added : List (String × α)) :
    (insertAll entries added).lookup k = (added.reverse.lookup k).or (entries.lookup k) := by
  induction added generalizing entries with
  | nil => rfl
  | cons e added ih =>
    have hlast : (insert e.1 e.2 entries).lookup k =
        ([e].lookup k).or (entries.lookup k) := by
      rw [lookup_insert, lookup_cons_eq_ite]
      split <;> rfl
    calc (insertAll entries (e :: added)).lookup k
        = (insertAll (insert e.1 e.2 entries) added).lookup k := rfl
      _ = (added.reverse.lookup k).or (([e].lookup k).or (entries.lookup k)) := by rw [ih, hlast]
      _ = ((e :: added).reverse.lookup k).or (entries.lookup k) := by
        rw [List.reverse_cons, List.lookup_append, Option.or_assoc]

theorem lookup_ofList (k : String) (added : List (String × α)) :
    (ofList added).lookup k = added.reverse.lookup k := by
  rw [ofList, lookup_insertAll, List.lookup_nil, Option.or_none]

/-- If each name has one entry, then the last entry for a name is the first one. -/
theorem lookup_reverse {entries : List (String × α)} (h : Ascending entries) (k : String) :
    entries.reverse.lookup k = entries.lookup k := by
  induction entries with
  | nil => rfl
  | cons e rest ih =>
    obtain ⟨he, hrest⟩ := List.pairwise_cons.1 h
    rw [List.reverse_cons, List.lookup_append, ih hrest, lookup_cons_eq_ite, lookup_cons_eq_ite]
    by_cases hk : k = e.1
    · have hnone : rest.lookup k = none :=
        List.lookup_eq_none_iff.2 fun e' he' => bne_iff_ne.2 (hk ▸ String.ne_of_lt (he e' he'))
      rw [if_pos hk, if_pos hk, hnone, Option.none_or]
    · rw [if_neg hk, if_neg hk, List.lookup_nil, Option.or_none]

end Entries

/-- Names and the things bound to them, each name once, in ascending order of the names. -/
structure Bindings (α : Type) where
  entries : List (String × α)
  ascending : Entries.Ascending entries

namespace Bindings

/-- No bindings. -/
def empty : Bindings α := ⟨[], List.Pairwise.nil⟩

/-- What is bound to a name. -/
def get? (b : Bindings α) (name : String) : Option α :=
  b.entries.lookup name

/-- Whether a name is bound. -/
def contains (b : Bindings α) (name : String) : Bool :=
  (b.get? name).isSome

/-- The bound names, in ascending order. -/
def names (b : Bindings α) : List String :=
  b.entries.map (·.1)

/-- The number of bound names. -/
def size (b : Bindings α) : Nat :=
  b.entries.length

/-- Whether no name is bound. -/
def isEmpty (b : Bindings α) : Bool :=
  b.entries.isEmpty

/-- Binds a name, in place of what was bound to it before. -/
def insert (b : Bindings α) (name : String) (value : α) : Bindings α :=
  ⟨Entries.insert name value b.entries, Entries.ascending_insert name value b.ascending⟩

/-- What is bound to a name, and the bindings after the name is bound anew. -/
def getThenInsert (b : Bindings α) (name : String) (value : α) : Option α × Bindings α :=
  (b.get? name, b.insert name value)

/-- Binds names one after the other, so that the last pair for a name counts. -/
def extend (b : Bindings α) (pairs : List (String × α)) : Bindings α :=
  ⟨Entries.insertAll b.entries pairs, Entries.ascending_insertAll b.ascending pairs⟩

/-- The bindings of some pairs, of which the last one for a name counts. -/
def ofList (pairs : List (String × α)) : Bindings α :=
  empty.extend pairs

@[simp] theorem get?_empty (name : String) : (empty : Bindings α).get? name = none := rfl

theorem get?_insert (b : Bindings α) (name : String) (value : α) (k : String) :
    (b.insert name value).get? k = if k = name then some value else b.get? k :=
  Entries.lookup_insert name value k b.entries

/-- The last pair for a name is what is bound to it. -/
theorem get?_ofList (pairs : List (String × α)) (name : String) :
    (ofList pairs).get? name = pairs.reverse.lookup name :=
  Entries.lookup_ofList name pairs

end Bindings

end TextTemplate
