import TextTemplate.Value.Display

/-!
# Positions in lists and strings

A list of length `n` has its items at the indices from `-n` to `n - 1`, each item at two of them:
one counts from the start and one from the end. All other integers of 64 bits are no indices of the
list, the least one included, although its distance from zero has no positive counterpart.

A string has its characters at the same indices as the list of its characters, each of them as a
string of its own. How many bytes a character takes does not matter. Such a string of one character
is its own first and its own last character.

## Main definitions

* `Value.ofChar`, `Value.characters`: characters as strings.

## Main results

* `Value.element?_eq_ite`: the elements of a sequence at indices.
* `Value.item?_string_int`: the characters of a string are the items of a list.
* `Value.item?_int`: which items lists and strings have at indices.
-/

namespace TextTemplate.Value

variable {α β : Type} {xs : List α} {i j : Int64} {k : Nat}

/-! ### Elements of sequences -/

/-- An index has an element if it lies between the length from the end and the length from the
start. -/
theorem element?_eq_ite (xs : List α) (i : Int64) :
    element? xs i =
      if -(xs.length : Int) ≤ i.toInt ∧ i.toInt < xs.length then
        xs[(if i.toInt < 0 then xs.length + i.toInt else i.toInt).toNat]?
      else none := by
  rw [element?, position?]
  by_cases hneg : i.toInt < 0
  · rw [if_neg (by omega), if_pos hneg]
    by_cases hback : i.toInt.natAbs ≤ xs.length
    · have hpos : xs.length - i.toInt.natAbs = (xs.length + i.toInt).toNat := by omega
      rw [if_pos hback, if_pos (by omega), Option.bind_some, hpos]
    · rw [if_neg hback, if_neg (by omega), Option.bind_none]
  · rw [if_pos (by omega), if_neg hneg, Option.bind_some]
    split
    · rfl
    · exact List.getElem?_eq_none (by omega)

theorem element?_map (f : α → β) (xs : List α) (i : Int64) :
    element? (xs.map f) i = (element? xs i).map f := by
  rw [element?, element?, List.length_map, Option.map_bind]
  exact Option.bind_congr fun n _ => List.getElem?_map

/-- An index that is not negative counts from the start. -/
theorem element?_of_toInt_eq (hk : k < xs.length) (h : i.toInt = k) :
    element? xs i = some xs[k] := by
  rw [element?_eq_ite, if_pos (by omega), if_neg (by omega), h, Int.toNat_natCast,
    List.getElem?_eq_getElem hk]

/-- A negative index counts from the end. -/
theorem element?_of_toInt_eq_sub (hk : k < xs.length) (h : i.toInt = k - (xs.length : Int)) :
    element? xs i = some xs[k] := by
  have hpos : ((xs.length : Int) + i.toInt).toNat = k := by omega
  rw [element?_eq_ite, if_pos (by omega), if_pos (by omega), hpos, List.getElem?_eq_getElem hk]

/-- Every index in range counts from one end or the other. -/
theorem exists_position (hlow : -(xs.length : Int) ≤ i.toInt) (hhigh : i.toInt < xs.length) :
    ∃ k < xs.length, i.toInt = k ∨ i.toInt = k - (xs.length : Int) := by
  by_cases hneg : i.toInt < 0
  · exact ⟨(xs.length + i.toInt).toNat, by omega, Or.inr (by omega)⟩
  · exact ⟨i.toInt.toNat, by omega, Or.inl (by omega)⟩

theorem isSome_element?_iff :
    (element? xs i).isSome = true ↔ -(xs.length : Int) ≤ i.toInt ∧ i.toInt < xs.length := by
  constructor
  · intro h
    rw [element?_eq_ite] at h
    split at h
    · assumption
    · cases h
  · rintro ⟨hlow, hhigh⟩
    obtain ⟨k, hk, hi | hi⟩ := exists_position hlow hhigh
    · rw [element?_of_toInt_eq hk hi, Option.isSome_some]
    · rw [element?_of_toInt_eq_sub hk hi, Option.isSome_some]

/-- The two indices of an element. -/
theorem element?_eq_of_toInt_eq_sub (hlow : 0 ≤ i.toInt) (hhigh : i.toInt < xs.length)
    (h : j.toInt = i.toInt - xs.length) : element? xs i = element? xs j := by
  have hk : i.toInt.toNat < xs.length := by omega
  rw [element?_of_toInt_eq hk (by omega), element?_of_toInt_eq_sub hk (by omega)]

/-- The elements at the indices 0, 1, 2 and so on are all elements in their order. -/
theorem map_element?_of_map_toInt {indices : List Int64}
    (h : indices.map Int64.toInt = (List.range xs.length).map Int.ofNat) :
    indices.map (element? xs) = xs.map some := by
  have hlength : indices.length = xs.length := by simpa using congrArg List.length h
  refine List.ext_getElem (by simpa using hlength) fun k hmap hmap' => ?_
  have hk : k < indices.length := by simpa using hmap
  have hk' : k < xs.length := by simpa using hmap'
  have htoInt : indices[k].toInt = k := by
    have hget := List.getElem_of_eq h (by simpa [hlength] using hk')
    simpa using hget
  rw [List.getElem_map, List.getElem_map, element?_of_toInt_eq hk' htoInt]

/-! ### Characters of strings -/

/-- A character as a string. -/
def ofChar (c : Char) : Value :=
  .string (String.ofList [c])

/-- The characters of a string, each as a string. -/
def characters (s : String) : List Value :=
  s.toList.map ofChar

theorem length_characters (s : String) : (characters s).length = s.length := by
  rw [characters, List.length_map, String.length_toList]

/-- A string has the items that the list of its characters has. -/
theorem item?_string_int (s : String) (i : Int64) :
    (string s).item? (.int i) = element? (characters s) i :=
  (element?_map ofChar s.toList i).symm

theorem characters_ofChar (c : Char) : characters (String.ofList [c]) = [ofChar c] := by
  rw [characters, String.toList_ofList, List.map_singleton]

/-- The characters of a string, one behind the other, are the string. -/
theorem join_display_characters (s : String) :
    String.join ((characters s).map display) = s := by
  have htext : (fun c => (ofChar c).display.toList) = fun c => [c] :=
    funext fun c => String.toList_ofList
  rw [← String.toList_inj, String.toList_join, characters, List.map_map, List.flatMap_map]
  calc s.toList.flatMap (fun c => (ofChar c).display.toList)
      = s.toList.flatMap fun c => [c] := by rw [htext]
    _ = s.toList := List.flatMap_singleton' s.toList

/-- What has been taken out of a string has one character, which is its first and its last one. -/
theorem item?_of_item?_string {s : String} {v : Value} (h : (string s).item? (.int i) = some v) :
    v.item? (.int 0) = some v ∧ v.item? (.int (-1)) = some v := by
  rw [item?_string_int, characters, element?_map] at h
  obtain ⟨c, -, rfl⟩ := Option.map_eq_some_iff.1 h
  rw [ofChar, item?_string_int, item?_string_int, characters_ofChar]
  exact ⟨rfl, rfl⟩

/-- An integer is an index of a list if it is at least the length with a minus sign and less than
the length. It stands for the item that is as far from the start, or from the end if it is
negative. A string has the items that the list of its characters has: at the indices from 0 on they
are the characters that the string is put together from, an index and the one less by the length
stand for the same character, and such a character is itself at the indices 0 and -1. -/
theorem item?_int :
    (∀ (items : List Value) (i : Int64),
      (((list items).item? (.int i)).isSome = true ↔
          -(items.length : Int) ≤ i.toInt ∧ i.toInt < items.length) ∧
        (∀ k (hk : k < items.length), i.toInt = k →
          (list items).item? (.int i) = some items[k]) ∧
        ∀ k (hk : k < items.length), i.toInt = k - (items.length : Int) →
          (list items).item? (.int i) = some items[k]) ∧
    ∀ s : String,
      (∀ i, (string s).item? (.int i) = (list (characters s)).item? (.int i)) ∧
      (∀ indices : List Int64, indices.map Int64.toInt = (List.range s.length).map Int.ofNat →
        ∃ cs : List Value, indices.map (fun i => (string s).item? (.int i)) = cs.map some ∧
          String.join (cs.map display) = s) ∧
      (∀ i j : Int64, 0 ≤ i.toInt → i.toInt < s.length → j.toInt = i.toInt - s.length →
        (string s).item? (.int i) = (string s).item? (.int j)) ∧
      ∀ i v, (string s).item? (.int i) = some v →
        v.item? (.int 0) = some v ∧ v.item? (.int (-1)) = some v := by
  refine ⟨fun items i => ⟨isSome_element?_iff, fun k => element?_of_toInt_eq,
    fun k => element?_of_toInt_eq_sub⟩, fun s => ⟨item?_string_int s, fun indices h => ?_,
    fun i j hlow hhigh hj => ?_, fun i v => item?_of_item?_string⟩⟩
  · refine ⟨characters s, ?_, join_display_characters s⟩
    rw [← length_characters] at h
    rw [← map_element?_of_map_toInt h]
    exact List.map_congr_left fun i _ => item?_string_int s i
  · rw [← length_characters] at hhigh hj
    rw [item?_string_int, item?_string_int]
    exact element?_eq_of_toInt_eq_sub hlow hhigh hj

/-- The least integer is no index, although its distance from the end has 64 bits without a sign,
and characters are counted whatever their sizes are. -/
theorem item?_int_two_characters :
    ((list [null, bool true]).item? (.int Int64.minValue)).isSome = false ∧
      (list [null, bool true]).item? (.int (-2)) = some null ∧
      ([0, 1] : List Int64).map Int64.toInt = (List.range "é😀".length).map Int.ofNat ∧
      (∃ cs : List Value, [0, 1].map (fun i => (string "é😀").item? (.int i)) = cs.map some ∧
        String.join (cs.map display) = "é😀") ∧
      (string "é😀").item? (.int (-1)) = some (string "😀") := by
  have hrange : ([0, 1] : List Int64).map Int64.toInt = (List.range "é😀".length).map Int.ofNat := by
    decide
  obtain ⟨hlist, hstring⟩ := item?_int
  obtain ⟨-, hparts, hends, -⟩ := hstring "é😀"
  refine ⟨?_, ?_, hrange, hparts [0, 1] hrange, ?_⟩
  · rw [Bool.eq_false_iff]
    exact mt (hlist [null, bool true] Int64.minValue).1.1 (by decide)
  · exact (hlist [null, bool true] (-2)).2.2 0 (by decide) (by decide)
  · rw [← hends 1 (-1) (by decide) (by decide) (by decide)]
    rfl

end TextTemplate.Value
