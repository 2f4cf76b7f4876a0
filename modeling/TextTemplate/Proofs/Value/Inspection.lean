import Mathlib
import TextTemplate.Proofs.Text.Quoted
import TextTemplate.Value.Display

/-!
# Values as in source text are unambiguous

The text of a value as in source text determines the value. Text inside a value cannot be mistaken
for its structure, since strings are quoted wherever they stand, as items, as entries and as the
keys of entries. What is shown for the inside of a list is not enough to read the list back,
though: the text of a number or of a word goes on as long as it can, so it is only known where it
ends if something follows that does not belong to it. In a list or a map this is a comma or the
closing bracket. So values are told apart by their texts together with whatever follows, if that
begins with such a mark, and this is shown by induction on the value.

Floating-point numbers are left out: not every one of them is equal to itself.

## Main definitions

* `Value.FloatFree`: values without floating-point numbers at any depth.
* `Value.ReadsBack`: two things that are told apart by their texts and what follows.

## Main results

* `Value.ReadsBack.commaSeparated`: texts that are separated by commas can be read back.
* `Value.readsBack_inspected`: the texts of values can be read back.
* `Value.inspect_eq_inspect_iff`: different values have different texts.
-/

namespace TextTemplate.Value

/-- A value without floating-point numbers, inside lists and maps too. -/
inductive FloatFree : Value → Prop where
  | null : FloatFree .null
  | bool (b : Bool) : FloatFree (.bool b)
  | int (n : Int64) : FloatFree (.int n)
  | string (s : String) : FloatFree (.string s)
  | list {items : List Value} (h : ∀ v ∈ items, FloatFree v) : FloatFree (.list items)
  | map {entries : List (String × Value)} (h : ∀ e ∈ entries, FloatFree e.2) :
      FloatFree (.map entries)

/-! ### Texts and what follows them -/

/-- Quotes, brackets, braces and commas show the structure of a value. -/
def isMark (c : Char) : Bool :=
  c ∈ ['"', '[', ']', '{', '}', ',']

/-- A text is empty or begins with a mark. -/
def StartsMarked (xs : List Char) : Prop :=
  ∀ x ∈ xs.head?, isMark x = true

/-- Two things are told apart by their texts, whatever follows with a mark in front, and so is what
follows. -/
def ReadsBack {α : Type} (text : α → List Char) (a b : α) : Prop :=
  ∀ xs ys, StartsMarked xs → StartsMarked ys → text a ++ xs = text b ++ ys → a = b ∧ xs = ys

theorem startsMarked_cons {c : Char} (h : isMark c = true) (xs : List Char) :
    StartsMarked (c :: xs) := by
  rintro x hx
  obtain rfl := Option.some.inj hx
  exact h

/-! ### Separation by commas -/

/-- The texts of some items between two brackets, with commas between them. -/
def bracketed {α : Type} (text : α → List Char) (closing : Char) (items : List α) : List Char :=
  [',', ' '].intercalate (items.map text) ++ [closing]

section

variable {α : Type} {text : α → List Char} {as bs : List α} {closing : Char} {xs ys : List Char}

theorem bracketed_cons_append (a : α) (as : List α) (xs : List Char) :
    bracketed text closing (a :: as) ++ xs =
      text a ++ (as.flatMap ([',', ' '] ++ text ·) ++ closing :: xs) := by
  rw [bracketed]
  induction as generalizing a with
  | nil => simp
  | cons b as ih =>
    have hrest := ih b
    simp only [List.map_cons, List.append_assoc, List.intercalate_cons_cons, List.flatMap_cons,
      List.singleton_append] at hrest ⊢
    rw [hrest]

/-- Further items, each behind a comma, can be read back, and so can what follows the bracket behind
the last one. -/
theorem ReadsBack.furtherItems (h : ∀ a ∈ as, ∀ b ∈ bs, ReadsBack text a b)
    (hmark : isMark closing = true) (hcomma : closing ≠ ',')
    (heq : as.flatMap ([',', ' '] ++ text ·) ++ closing :: xs =
      bs.flatMap ([',', ' '] ++ text ·) ++ closing :: ys) :
    as = bs ∧ xs = ys := by
  have hstarts (cs : List α) (zs : List Char) :
      StartsMarked (cs.flatMap ([',', ' '] ++ text ·) ++ closing :: zs) := by
    cases cs with
    | nil => exact startsMarked_cons hmark zs
    | cons c cs => exact startsMarked_cons (by decide) _
  induction as generalizing bs with
  | nil =>
    cases bs with
    | nil => exact ⟨rfl, (List.cons.inj heq).2⟩
    | cons b bs => exact absurd (List.cons.inj heq).1 hcomma
  | cons a as ih =>
    cases bs with
    | nil => exact absurd (List.cons.inj heq).1.symm hcomma
    | cons b bs =>
      simp only [List.flatMap_cons, List.append_assoc, List.cons_append, List.nil_append,
        List.cons.injEq, true_and] at heq
      obtain ⟨rfl, hrest⟩ :=
        h a List.mem_cons_self b List.mem_cons_self _ _ (hstarts _ _) (hstarts _ _) heq
      have htail : ∀ a ∈ as, ∀ b ∈ bs, ReadsBack text a b := fun a ha b hb =>
        h a (List.mem_cons_of_mem _ ha) b (List.mem_cons_of_mem _ hb)
      obtain ⟨rfl, hxs⟩ := ih htail hrest
      exact ⟨rfl, hxs⟩

/-- Items between brackets can be read back, and so can what follows the brackets, if no item begins
with the closing one. -/
theorem ReadsBack.bracketed (h : ∀ a ∈ as, ∀ b ∈ bs, ReadsBack text a b)
    (hfirst : ∀ c ∈ as ++ bs, ∀ zs ws, text c ++ zs ≠ closing :: ws)
    (hmark : isMark closing = true) (hcomma : closing ≠ ',')
    (heq : bracketed text closing as ++ xs = bracketed text closing bs ++ ys) :
    as = bs ∧ xs = ys := by
  cases as with
  | nil =>
    cases bs with
    | nil => exact ⟨rfl, (List.cons.inj heq).2⟩
    | cons b bs =>
      rw [bracketed_cons_append] at heq
      exact absurd heq.symm (hfirst b (by simp) _ _)
  | cons a as =>
    cases bs with
    | nil =>
      rw [bracketed_cons_append] at heq
      exact absurd heq (hfirst a (by simp) _ _)
    | cons b bs =>
      -- the first items are cut off by commas like the further ones
      rw [bracketed_cons_append, bracketed_cons_append] at heq
      refine ReadsBack.furtherItems h hmark hcomma ?_
      rw [List.flatMap_cons, List.flatMap_cons, List.append_assoc, List.append_assoc,
        List.append_assoc, List.append_assoc, heq]

end

/-! ### Words -/

/-- The values that are written as words or numbers. -/
inductive IsWord : Value → Prop where
  | null : IsWord .null
  | bool (b : Bool) : IsWord (.bool b)
  | int (n : Int64) : IsWord (.int n)

variable {a b v : Value} {xs ys zs : List Char}

theorem inspect_int (n : Int64) : (int n).inspect = n.toInt.repr := by
  rw [inspect, Int.toString_eq_repr]

/-- An integer is written with digits and perhaps a minus sign. -/
theorem isDigit_or_eq_minus_of_mem_repr {n : Int} {c : Char} (h : c ∈ n.repr.toList) :
    c.isDigit = true ∨ c = '-' := by
  have hdigits (k : Nat) (hc : c ∈ k.repr.toList) : c.isDigit = true := by
    rw [Nat.toList_repr] at hc
    exact Nat.isDigit_of_mem_toDigits (by decide) (by decide) hc
  rw [Int.repr_eq_if] at h
  split at h
  · exact Or.inl (hdigits _ h)
  · rw [String.toList_append, List.mem_append] at h
    rcases h with h | h
    · exact Or.inr (List.mem_singleton.1 h)
    · exact Or.inl (hdigits _ h)

/-- Numbers and words have no letter in common. -/
theorem repr_ne_of_mem {n : Int} {s : String} (h : 'e' ∈ s.toList) : n.repr ≠ s := by
  rintro rfl
  rcases isDigit_or_eq_minus_of_mem_repr h with hdigit | hminus
  · exact absurd hdigit (by decide)
  · exact absurd hminus (by decide)

/-- Words have no marks in them. -/
theorem IsWord.isMark_eq_false (h : v.IsWord) : ∀ c ∈ v.inspect.toList, isMark c = false := by
  cases h with
  | null => simp [inspect, isMark]
  | bool b => cases b <;> simp [inspect, isMark]
  | int n =>
    intro c hc
    rw [inspect_int] at hc
    rw [← Bool.not_eq_true]
    intro hmark
    simp only [isMark, List.mem_cons, List.not_mem_nil, or_false, decide_eq_true_eq] at hmark
    rcases isDigit_or_eq_minus_of_mem_repr hc with hdigit | rfl
    · rcases hmark with rfl | rfl | rfl | rfl | rfl | rfl <;> exact absurd hdigit (by decide)
    · exact absurd hmark (by decide)

theorem IsWord.inspect_ne_empty (h : v.IsWord) : v.inspect ≠ "" := by
  cases h with
  | null => simp [inspect]
  | bool b => cases b <;> simp [inspect]
  | int n =>
    rw [inspect_int, Int.repr_eq_if]
    split
    · exact Nat.repr_ne_empty
    · simp

/-- Different words have different texts. -/
theorem IsWord.eq_of_inspect_eq (ha : a.IsWord) (hb : b.IsWord) (h : a.inspect = b.inspect) :
    a = b := by
  have hnull (b : Bool) : Value.null.inspect ≠ (Value.bool b).inspect := by
    cases b <;> simp [inspect]
  have hint {v : Value} (hv : 'e' ∈ v.inspect.toList) (n : Int64) :
      (Value.int n).inspect ≠ v.inspect := by
    rw [inspect_int]
    exact repr_ne_of_mem hv
  have he (b : Bool) : 'e' ∈ (Value.bool b).inspect.toList := by cases b <;> simp [inspect]
  cases ha with
  | null =>
    cases hb with
    | null => rfl
    | bool b => exact absurd h (hnull b)
    | int n => exact absurd h.symm (hint (by simp [inspect]) n)
  | bool b =>
    cases hb with
    | null => exact absurd h.symm (hnull b)
    | bool b' => cases b <;> cases b' <;> simp_all [inspect]
    | int n => exact absurd h.symm (hint (he b) n)
  | int n =>
    cases hb with
    | null => exact absurd h (hint (by simp [inspect]) n)
    | bool b => exact absurd h (hint (he b) n)
    | int n' =>
      rw [inspect_int, inspect_int, Int.repr_inj, Int64.toInt_inj] at h
      rw [h]

/-! ### Values -/

/-- The characters of a value as in source text. -/
def inspected (v : Value) : List Char :=
  v.inspect.toList

/-- The characters of an entry of a map: its key between quotes, a colon and its value. -/
def inspectedEntry (e : String × Value) : List Char :=
  Quoted.enclose '"' e.1.toList ++ ([':', ' '] ++ inspected e.2)

theorem inspected_string (s : String) : inspected (.string s) = Quoted.enclose '"' s.toList := by
  rw [inspected, inspect, Quoted.string, String.toList_ofList]

theorem inspected_list (items : List Value) :
    inspected (.list items) = '[' :: bracketed inspected ']' items := by
  have hitems : ∀ items : List Value, inspectItems items = items.map inspect := by
    intro items
    induction items with
    | nil => rfl
    | cons v items ih => rw [inspectItems, ih, List.map_cons]
  rw [inspected, inspect, hitems, String.toList_append, String.toList_append,
    String.toList_intercalate, List.map_map]
  rfl

theorem inspected_map (entries : List (String × Value)) :
    inspected (.map entries) = '{' :: bracketed inspectedEntry '}' entries := by
  have hentries : ∀ entries : List (String × Value), (inspectEntries entries).map String.toList =
      entries.map inspectedEntry := by
    intro entries
    induction entries with
    | nil => rfl
    | cons e entries ih =>
      rw [inspectEntries, List.map_cons, ih, List.map_cons, inspectedEntry]
      simp [Quoted.string, inspected]
  rw [inspected, inspect, String.toList_append, String.toList_append, String.toList_intercalate,
    hentries]
  rfl

/-- A value that is no word is written with a mark in front, which shows its kind. -/
inductive Opens : Value → Char → Prop where
  | string (s : String) : Opens (.string s) '"'
  | list {items : List Value} (h : ∀ v ∈ items, FloatFree v) : Opens (.list items) '['
  | map {entries : List (String × Value)} (h : ∀ e ∈ entries, FloatFree e.2) :
      Opens (.map entries) '{'

theorem Opens.isMark {c : Char} (h : v.Opens c) : isMark c = true := by
  cases h <;> decide

theorem FloatFree.isWord_or_opens (h : v.FloatFree) :
    v.IsWord ∨ ∃ c cs, v.Opens c ∧ inspected v = c :: cs := by
  cases h with
  | null => exact Or.inl .null
  | bool b => exact Or.inl (.bool b)
  | int n => exact Or.inl (.int n)
  | string s => exact Or.inr ⟨_, _, .string s, inspected_string s⟩
  | list h => exact Or.inr ⟨_, _, .list h, inspected_list _⟩
  | map h => exact Or.inr ⟨_, _, .map h, inspected_map _⟩

/-- A word does not begin with a mark. -/
theorem IsWord.inspected_append_ne (h : v.IsWord) {c : Char} (hc : Value.isMark c = true)
    (xs ys : List Char) : inspected v ++ xs ≠ c :: ys := by
  intro heq
  rcases List.append_eq_cons_iff.1 heq with ⟨hempty, -⟩ | ⟨cs, hcs, -⟩
  · exact h.inspect_ne_empty (String.toList_eq_nil_iff.1 hempty)
  · have hmem : c ∈ inspected v := by
      rw [hcs]
      exact List.mem_cons_self
    rw [h.isMark_eq_false c hmem] at hc
    cases hc

/-- If a mark is in front, it is that of the value. -/
theorem FloatFree.opens_of_append_eq_cons (h : v.FloatFree) {c : Char}
    (hc : Value.isMark c = true) (heq : inspected v ++ xs = c :: ys) : v.Opens c := by
  rcases h.isWord_or_opens with hword | ⟨d, ds, hopens, htext⟩
  · exact absurd heq (hword.inspected_append_ne hc xs ys)
  · rw [htext] at heq
    obtain ⟨rfl, -⟩ := List.cons.inj heq
    exact hopens

/-! ### Values can be read back -/

/-- The text of a word is told apart from that of any other value. -/
theorem IsWord.readsBack (ha : a.IsWord) (hb : b.FloatFree) : ReadsBack inspected a b := by
  intro xs ys hxs hys heq
  rcases hb.isWord_or_opens with hword | ⟨c, cs, hopens, htext⟩
  · obtain ⟨htext, hrest⟩ :=
      append_inj_of_head? ha.isMark_eq_false hword.isMark_eq_false hxs hys heq
    exact ⟨ha.eq_of_inspect_eq hword (String.toList_inj.1 htext), hrest⟩
  · rw [htext] at heq
    exact absurd heq (ha.inspected_append_ne hopens.isMark xs _)

/-- Entries of maps are told apart by their keys and values, since a key ends with its quote. -/
theorem ReadsBack.entry {d e : String × Value} (h : ReadsBack inspected d.2 e.2) :
    ReadsBack inspectedEntry d e := by
  intro xs ys hxs hys heq
  simp only [inspectedEntry, List.append_assoc] at heq
  obtain ⟨hkey, hrest⟩ := Quoted.enclose_append_inj heq
  obtain ⟨hvalue, hxs'⟩ := h xs ys hxs hys (List.append_cancel_left hrest)
  exact ⟨Prod.ext (String.toList_inj.1 hkey) hvalue, hxs'⟩

/-- The texts of values can be read back. -/
theorem readsBack_inspected (ha : a.FloatFree) (hb : b.FloatFree) : ReadsBack inspected a b := by
  induction ha generalizing b with
  | null => exact IsWord.null.readsBack hb
  | bool b' => exact (IsWord.bool b').readsBack hb
  | int n => exact (IsWord.int n).readsBack hb
  | string s =>
    intro xs ys _ _ heq
    rw [inspected_string] at heq
    cases hb.opens_of_append_eq_cons (by decide) heq.symm with
    | string t =>
      rw [inspected_string] at heq
      obtain ⟨htext, hrest⟩ := Quoted.enclose_append_inj heq
      exact ⟨congrArg _ (String.toList_inj.1 htext), hrest⟩
  | @list items h ih =>
    intro xs ys _ _ heq
    rw [inspected_list] at heq
    cases hb.opens_of_append_eq_cons (by decide) heq.symm with
    | @list items' h' =>
      rw [inspected_list] at heq
      -- the list is empty if its bracket is closed at once, since no item begins in this way
      have hfirst : ∀ v ∈ items ++ items', ∀ zs ws, inspected v ++ zs ≠ ']' :: ws := by
        intro v hv zs ws hclosed
        have hfree : v.FloatFree := (List.mem_append.1 hv).elim (h v) (h' v)
        cases hfree.opens_of_append_eq_cons (by decide) hclosed
      obtain ⟨hitems, hrest⟩ := ReadsBack.bracketed (fun v hv w hw => ih v hv (h' w hw)) hfirst
        (by decide) (by decide) (List.cons.inj heq).2
      exact ⟨congrArg _ hitems, hrest⟩
  | @map entries h ih =>
    intro xs ys _ _ heq
    rw [inspected_map] at heq
    cases hb.opens_of_append_eq_cons (by decide) heq.symm with
    | @map entries' h' =>
      rw [inspected_map] at heq
      have hfirst : ∀ e ∈ entries ++ entries', ∀ zs ws, inspectedEntry e ++ zs ≠ '}' :: ws :=
        fun e _ zs ws hclosed => absurd (List.cons.inj hclosed).1 (by decide)
      obtain ⟨hentries, hrest⟩ := ReadsBack.bracketed
        (fun d hd e he => (ih d hd (h' e he)).entry) hfirst (by decide) (by decide)
        (List.cons.inj heq).2
      exact ⟨congrArg _ hentries, hrest⟩

/-- Values without floating-point numbers are the same if their texts as in source text are. -/
theorem inspect_eq_inspect_iff (ha : a.FloatFree) (hb : b.FloatFree) :
    a.inspect = b.inspect ↔ a = b := by
  refine ⟨fun h => ?_, fun h => by rw [h]⟩
  have hnil : StartsMarked [] := by simp [StartsMarked]
  have heq : inspected a ++ [] = inspected b ++ [] := by rw [inspected, inspected, h]
  exact (readsBack_inspected ha hb [] [] hnil hnil heq).1

/-- A string that looks like two items stays one, and a word is not the string with its letters. -/
theorem inspect_ne_inspect_of_quotes :
    let joined : Value := .map [("k", .list [.string "a\", \"b", .null])]
    let apart : Value := .map [("k", .list [.string "a", .string "b", .string "none"])]
    joined.FloatFree ∧ apart.FloatFree ∧ joined.inspect ≠ apart.inspect := by
  intro joined apart
  have hjoined : joined.FloatFree := .map (List.forall_mem_singleton.2
    (.list (List.forall_mem_cons.2 ⟨.string _, List.forall_mem_singleton.2 .null⟩)))
  have hapart : apart.FloatFree := .map (List.forall_mem_singleton.2
    (.list (List.forall_mem_cons.2 ⟨.string _, List.forall_mem_cons.2
      ⟨.string _, List.forall_mem_singleton.2 (.string _)⟩⟩)))
  have hne : joined ≠ apart := by simp [joined, apart]
  exact ⟨hjoined, hapart, fun h => hne ((inspect_eq_inspect_iff hjoined hapart).1 h)⟩

end TextTemplate.Value
