import TextTemplate.Proofs.Lexeme.Form

/-!
# The longest lexeme

At the front of a text a string is looked for first, then a number, then a name, and then the
operators one by one; the first that is found counts. It is the longest text of any of these kinds
that stands there. The kinds do not compete, since they begin with different characters. Within a
kind, names, the two runs of digits of a number and the inside of a string go on as far as they can,
and longer operators are tried before shorter ones.

## Main definitions

* `Operator.alternatives`: the texts of the operators in the order in which they are tried.
* `Lexeme.IsLongest`: a text is the longest lexeme at the front of another one.

## Main results

* `Operator.mem_alternatives_iff`: these texts are those from which an operator is known.
* `Lexeme.exists_front?_of_formed`: the lexeme that is found is not shorter than any other one.
* `Lexeme.front?_eq_some_iff`, `Lexeme.front?_eq_none_iff`: what is found is the longest lexeme, and
  nothing is found exactly if there is none.
-/

namespace TextTemplate

namespace Operator

variable {cs : List Char} {op : Operator}

/-- The texts of the operators, in the order in which they are tried. -/
def alternatives : List String :=
  ["**=", ">>=", "<<=", "//=",
   "==", "!=", "<=", ">=", "<<", ">>", "**", "//",
   "+=", "-=", "*=", "/=", "%=", "&=", "|=", "^=",
   "(", ")", "[", "]", ":", ",", ";", "+", "-", "*", "/",
   "|", "&", "<", ">", "=", ".", "%", "\x7b", "\x7d", "~", "^", "@"]

theorem alternatives_eq : alternatives = all.map text := by decide

theorem ofText?_eq_some_iff {s : String} : ofText? s = some op ↔ op.text = s := by
  constructor
  · intro h
    have hspelling : op.spelling = s.toList := by simpa using List.find?_some h
    rw [text, hspelling, String.ofList_toList]
  · rintro rfl
    rw [ofText?, text, String.toList_ofList, ofSpelling?_spelling]

/-- The texts that are tried are those from which an operator is known. -/
theorem mem_alternatives_iff {s : String} : s ∈ alternatives ↔ ∃ op, ofText? s = some op := by
  rw [alternatives_eq, List.mem_map]
  refine exists_congr fun op => ?_
  rw [ofText?_eq_some_iff, and_iff_right (mem_all op)]

theorem pairwise_length_all : all.Pairwise fun a b => b.spelling.length ≤ a.spelling.length := by
  decide

/-- The first operator that is found is not shorter than any other one. -/
theorem exists_front?_of_prefix (h : op.spelling <+: cs) :
    ∃ op' rest, front? cs = some (op', rest) ∧ op.spelling.length ≤ op'.spelling.length := by
  have hop : op.spelling.isPrefixOf cs = true := List.isPrefixOf_iff_prefix.2 h
  obtain ⟨first, hfirst⟩ : ∃ first, all.find? (fun op => op.spelling.isPrefixOf cs) = some first :=
    Option.isSome_iff_exists.1 (List.find?_isSome.2 ⟨op, mem_all op, hop⟩)
  refine ⟨first, _, by rw [front?, hfirst]; rfl, ?_⟩
  obtain ⟨-, before, after, hall, hbefore⟩ := List.find?_eq_some_iff_append.1 hfirst
  have hpairs := pairwise_length_all
  rw [hall, List.pairwise_append, List.pairwise_cons] at hpairs
  have hmem := mem_all op
  rw [hall, List.mem_append, List.mem_cons] at hmem
  rcases hmem with hmem | rfl | hmem
  -- an operator that was tried in vain does not stand there
  · have hpassed := hbefore op hmem
    rw [hop] at hpassed
    cases hpassed
  · exact Nat.le_refl _
  · exact hpairs.2.1.1 op hmem

/-- An operator begins like no other kind of lexeme. -/
theorem exists_spelling_eq_cons (op : Operator) : ∃ c cs, op.spelling = c :: cs ∧
    Lexeme.isQuote c = false ∧ c.isDigit = false ∧ Lexeme.isNameStart c = false := by
  cases op <;> exact ⟨_, _, rfl, by decide, by decide, by decide⟩

end Operator

namespace Lexeme

variable {cs text text' : List Char} {kind kind' : Token.Kind} {l : Lexeme}

/-! ### Nothing longer is passed over -/

theorem front?_of_operator? (h : operator? cs = some l) : front? cs = some l := by
  obtain ⟨⟨op, rest⟩, hfront, -⟩ := Option.map_eq_some_iff.1 h
  obtain ⟨c, cs', hspelling, hquote, hdigit, hstart⟩ := op.exists_spelling_eq_cons
  have hcs := Operator.eq_of_front? hfront
  rw [hspelling, List.cons_append] at hcs
  have hname : name? (c :: (cs' ++ rest)) = none := by rw [name?, if_neg (by simp [hstart])]
  rw [front?, h, hcs, string?_eq_none hquote, number?_eq_none hdigit, hname]
  rfl

theorem exists_number?_of_isNumeral (h : IsNumeral cs) (rest : List Char) :
    ∃ l, number? (cs ++ rest) = some l ∧ cs.length ≤ l.text.length :=
  ⟨_, number?_of_isNumeral h rest, by simp only [List.length_append]; omega⟩

/-- The digits behind a point go on as far as they can. -/
theorem number?_of_decimal {whole fraction : List Char} (hwhole : IsNumeral whole)
    (hfraction : ∀ c ∈ fraction, c.isDigit = true) (rest : List Char) :
    number? (whole ++ '.' :: fraction ++ rest) =
      some ⟨.number, whole ++ '.' :: (fraction ++ rest.takeWhile Char.isDigit),
        rest.dropWhile Char.isDigit⟩ := by
  have hpoint : ¬ Char.isDigit '.' = true := by decide
  rw [List.append_assoc, number?_of_isNumeral hwhole, List.cons_append,
    List.takeWhile_cons_of_neg hpoint, List.dropWhile_cons_of_neg hpoint, List.append_nil]
  simp only [splitFraction, List.takeWhile_append_of_pos hfraction,
    List.dropWhile_append_of_pos hfraction]

theorem exists_number?_of_decimal {whole fraction : List Char} (hwhole : IsNumeral whole)
    (hfraction : ∀ c ∈ fraction, c.isDigit = true) (rest : List Char) :
    ∃ l, number? (whole ++ '.' :: fraction ++ rest) = some l ∧
      (whole ++ '.' :: fraction).length ≤ l.text.length := by
  refine ⟨_, number?_of_decimal hwhole hfraction rest, ?_⟩
  simp only [List.length_append, List.length_cons]
  omega

theorem exists_name?_of_isName (h : IsName cs) (rest : List Char) :
    ∃ l, name? (cs ++ rest) = some l ∧ cs.length ≤ l.text.length :=
  ⟨_, name?_of_isName h rest, by simp only [List.length_append]; omega⟩

/-- The lexeme that is found is not shorter than any other one. -/
theorem exists_front?_of_formed (h : Formed kind text) (rest : List Char) :
    ∃ l, front? (text ++ rest) = some l ∧ text.length ≤ l.text.length := by
  cases h with
  | string hquote h => exact ⟨_, front?_of_string? (string?_append hquote h rest), Nat.le_refl _⟩
  | integer h =>
    obtain ⟨l, hl, hlength⟩ := exists_number?_of_isNumeral h rest
    exact ⟨l, front?_of_number? hl, hlength⟩
  | decimal hwhole hfraction =>
    obtain ⟨l, hl, hlength⟩ := exists_number?_of_decimal hwhole hfraction rest
    exact ⟨l, front?_of_number? hl, hlength⟩
  | name h =>
    obtain ⟨l, hl, hlength⟩ := exists_name?_of_isName h rest
    exact ⟨l, front?_of_name? hl, hlength⟩
  | operator op =>
    obtain ⟨op', rest', hfront, hlength⟩ :=
      Operator.exists_front?_of_prefix (List.prefix_append op.spelling rest)
    exact ⟨_, front?_of_operator? (by rw [operator?, hfront]; rfl), hlength⟩

/-! ### The longest lexeme -/

/-- A text stands at the front of another one and is a lexeme of a kind, and no lexeme of any kind
that stands there is longer. -/
structure IsLongest (kind : Token.Kind) (text cs : List Char) : Prop where
  formed : Formed kind text
  front : text <+: cs
  length_le : ∀ kind' text', Formed kind' text' → text' <+: cs → text'.length ≤ text.length

theorem IsLongest.ne_nil (h : IsLongest kind text cs) : cs ≠ [] := by
  rintro rfl
  exact h.formed.ne_nil (List.prefix_nil.1 h.front)

/-- Where a lexeme stands there is no blank. -/
theorem IsLongest.isBlank_head (h : IsLongest kind text cs) :
    ∀ c ∈ cs.head?, isBlank c = false := by
  obtain ⟨c, ds, hcons, hblank⟩ := h.formed.exists_cons
  obtain ⟨rest, rfl⟩ := h.front
  rw [hcons]
  intro d hd
  cases hd
  exact hblank

/-- What is found is the longest lexeme. -/
theorem isLongest_of_front? (h : front? cs = some l) : IsLongest l.kind l.text cs := by
  refine ⟨formed_of_front? h, ⟨l.rest, (cut_of_front? h).text_append_rest⟩, ?_⟩
  rintro kind text hformed ⟨rest, rfl⟩
  obtain ⟨l', hl', hlength⟩ := exists_front?_of_formed hformed rest
  obtain rfl := Option.some.inj (h.symm.trans hl')
  exact hlength

/-- A lexeme is found where nothing else stands. -/
theorem Formed.front?_eq (h : Formed kind text) : front? text = some ⟨kind, text, []⟩ := by
  rw [← List.append_nil text]
  cases h with
  | string hquote h =>
    rw [front?_of_string? (string?_append hquote h []), List.append_nil]
  | integer h =>
    rw [front?_of_number? (number?_of_isNumeral h [])]
    simp [splitFraction]
  | decimal hwhole hfraction =>
    rw [front?_of_number? (number?_of_decimal hwhole hfraction [])]
    simp
  | name h =>
    rw [front?_of_name? (name?_of_isName h [])]
    simp
  | operator op => cases op <;> rfl

/-- A text is a lexeme of one kind only. -/
theorem Formed.kind_eq (h : Formed kind text) (h' : Formed kind' text) : kind = kind' := by
  have heq := h.front?_eq.symm.trans h'.front?_eq
  simpa using heq

/-- What is found is the longest lexeme, and what follows it is left. -/
theorem front?_eq_some_iff {rest : List Char} :
    front? cs = some ⟨kind, text, rest⟩ ↔ IsLongest kind text cs ∧ text ++ rest = cs := by
  constructor
  · intro h
    exact ⟨isLongest_of_front? h, (cut_of_front? h).text_append_rest⟩
  · rintro ⟨hlongest, rfl⟩
    obtain ⟨⟨kind', text', rest'⟩, hfront, hlength⟩ := exists_front?_of_formed hlongest.formed rest
    have hlongest' := isLongest_of_front? hfront
    have hlength' := hlongest.length_le _ _ hlongest'.formed hlongest'.front
    obtain ⟨rfl, rfl⟩ :=
      List.append_inj (cut_of_front? hfront).text_append_rest (Nat.le_antisymm hlength' hlength)
    obtain rfl := hlongest.formed.kind_eq hlongest'.formed
    exact hfront

/-- There is one longest lexeme only. -/
theorem IsLongest.unique (h : IsLongest kind text cs) (h' : IsLongest kind' text' cs) :
    kind = kind' ∧ text = text' := by
  obtain ⟨rest, hrest⟩ := h.front
  obtain ⟨rest', hrest'⟩ := h'.front
  have heq := (front?_eq_some_iff.2 ⟨h, hrest⟩).symm.trans (front?_eq_some_iff.2 ⟨h', hrest'⟩)
  cases heq
  exact ⟨rfl, rfl⟩

/-- Nothing is found exactly if there is no lexeme. -/
theorem front?_eq_none_iff :
    front? cs = none ↔ ∀ kind text, Formed kind text → ¬ text <+: cs := by
  constructor
  · rintro h kind text hformed ⟨rest, rfl⟩
    obtain ⟨l, hl, -⟩ := exists_front?_of_formed hformed rest
    rw [h] at hl
    cases hl
  · intro h
    cases hfront : front? cs with
    | none => rfl
    | some l =>
      have hlongest := isLongest_of_front? hfront
      exact absurd hlongest.front (h l.kind l.text hlongest.formed)

end Lexeme

end TextTemplate
