import TextTemplate.Proofs.Lexeme.Spelling

/-!
# The form of lexemes

Whatever is cut off the front of a text as a lexeme has the form of its kind: two equal quotes
around a text that can stand between them, digits with a point and further digits or without, a
name, or an operator as it is spelled.

## Main definitions

* `Lexeme.Formed`: the texts of each kind of lexeme.

## Main results

* `Lexeme.formed_of_front?`: a lexeme at the front of a text has the form of its kind.
-/

namespace TextTemplate.Lexeme

variable {cs text rest : List Char} {quote : Char} {l : Lexeme}

/-- The texts of each kind of lexeme. -/
inductive Formed : Token.Kind → List Char → Prop where
  | string {quote : Char} {cs : List Char} (hquote : isQuote quote = true)
      (h : Quotable quote cs) : Formed .string (quote :: (cs ++ [quote]))
  | integer {cs : List Char} (h : IsNumeral cs) : Formed .number cs
  | decimal {whole fraction : List Char} (hwhole : IsNumeral whole)
      (hfraction : ∀ c ∈ fraction, c.isDigit = true) : Formed .number (whole ++ '.' :: fraction)
  | name {cs : List Char} (h : IsName cs) : Formed .name cs
  | operator (op : Operator) : Formed (.operator op) op.spelling

theorem formed_string_iff : Formed .string cs ↔
    ∃ quote inner, isQuote quote = true ∧ Quotable quote inner ∧
      cs = quote :: (inner ++ [quote]) := by
  constructor
  · rintro ⟨hquote, h⟩
    exact ⟨_, _, hquote, h, rfl⟩
  · rintro ⟨quote, inner, hquote, h, rfl⟩
    exact .string hquote h

theorem formed_number_iff : Formed .number cs ↔ IsNumeral cs ∨ ∃ whole fraction,
    IsNumeral whole ∧ (∀ c ∈ fraction, c.isDigit = true) ∧ cs = whole ++ '.' :: fraction := by
  constructor
  · intro h
    cases h with
    | integer h => exact Or.inl h
    | decimal hwhole hfraction => exact Or.inr ⟨_, _, hwhole, hfraction, rfl⟩
  · rintro (h | ⟨whole, fraction, hwhole, hfraction, rfl⟩)
    · exact .integer h
    · exact .decimal hwhole hfraction

theorem Formed.ne_nil {kind : Token.Kind} (h : Formed kind cs) : cs ≠ [] := by
  cases h with
  | string => simp
  | integer h => exact h.1
  | decimal => simp
  | name h =>
    rintro rfl
    exact h
  | operator op => exact op.spelling_ne_nil

theorem IsNumeral.exists_cons (h : IsNumeral cs) :
    ∃ c ds, cs = c :: ds ∧ c.isDigit = true := by
  obtain ⟨hne, hdigits⟩ := h
  obtain ⟨c, ds, rfl⟩ := List.exists_cons_of_ne_nil hne
  exact ⟨c, ds, rfl, hdigits c List.mem_cons_self⟩

/-- A lexeme does not begin with a blank. -/
theorem Formed.exists_cons {kind : Token.Kind} (h : Formed kind cs) :
    ∃ c ds, cs = c :: ds ∧ isBlank c = false := by
  cases h with
  | string hquote h => exact (Spells.string hquote h).exists_cons
  | integer h => exact (Spells.number h).exists_cons
  | decimal hwhole =>
    obtain ⟨c, ds, rfl, hdigit⟩ := hwhole.exists_cons
    exact ⟨c, _, rfl, isBlank_eq_false hdigit (by decide)⟩
  | name h => exact (Spells.name h).exists_cons
  | operator op => exact (Spells.operator op).exists_cons

/-- What is cut at a quote can stand before that quote. -/
theorem quotable_of_splitAtQuote (h : splitAtQuote quote cs = some (text, rest)) :
    ∃ inner, Quotable quote inner ∧ text = inner ++ [quote] := by
  fun_induction splitAtQuote quote cs generalizing text with
  | case1 c cs ih =>
    obtain ⟨⟨text', rest'⟩, hcut, heq⟩ := Option.map_eq_some_iff.1 h
    obtain ⟨rfl, rfl⟩ := Prod.mk.inj heq
    obtain ⟨inner, hinner, rfl⟩ := ih hcut
    exact ⟨'\\' :: c :: inner, .escape c hinner, rfl⟩
  | case2 cs _ =>
    obtain ⟨rfl, rfl⟩ := Prod.mk.inj (Option.some.inj h)
    exact ⟨[], .nil, rfl⟩
  | case3 => cases h
  | case4 c cs _ hquote hplain ih =>
    obtain ⟨⟨text', rest'⟩, hcut, heq⟩ := Option.map_eq_some_iff.1 h
    obtain ⟨rfl, rfl⟩ := Prod.mk.inj heq
    obtain ⟨inner, hinner, rfl⟩ := ih hcut
    obtain ⟨hslash, hfeed⟩ := not_or.1 hplain
    exact ⟨c :: inner, .plain hquote hslash hfeed hinner, rfl⟩
  | case5 => cases h

theorem formed_of_string? (h : string? cs = some l) : Formed l.kind l.text := by
  unfold string? at h
  split at h
  · split at h
    · next hquote =>
      obtain ⟨⟨text, rest⟩, hcut, rfl⟩ := Option.map_eq_some_iff.1 h
      obtain ⟨inner, hinner, rfl⟩ := quotable_of_splitAtQuote hcut
      exact .string hquote hinner
    · cases h
  · cases h

theorem formed_of_number? (h : number? cs = some l) : Formed l.kind l.text := by
  simp only [number?] at h
  split at h
  · cases h
  · next hdigits =>
    cases h
    have hwhole : IsNumeral (cs.takeWhile Char.isDigit) :=
      ⟨hdigits, List.all_eq_true.1 List.all_takeWhile⟩
    unfold splitFraction
    split
    · exact .decimal hwhole (List.all_eq_true.1 List.all_takeWhile)
    · rw [List.append_nil]
      exact .integer hwhole

theorem formed_of_name? (h : name? cs = some l) : Formed l.kind l.text := by
  unfold name? at h
  split at h
  · split at h
    · next hstart =>
      cases h
      exact .name ⟨hstart, List.all_eq_true.1 List.all_takeWhile⟩
    · cases h
  · cases h

/-- A lexeme at the front of a text has the form of its kind. -/
theorem formed_of_front? (h : front? cs = some l) : Formed l.kind l.text := by
  simp only [front?, Option.orElse_eq_orElse, Option.orElse_eq_or, Option.or_eq_some_iff] at h
  rcases h with h | ⟨_, h | ⟨_, h | ⟨_, h⟩⟩⟩
  · exact formed_of_string? h
  · exact formed_of_number? h
  · exact formed_of_name? h
  · obtain ⟨⟨op, rest⟩, _, rfl⟩ := Option.map_eq_some_iff.1 h
    exact .operator op

theorem kind_ne_endMarker_of_front? (h : front? cs = some l) : l.kind ≠ .endMarker := by
  intro hkind
  have hformed := formed_of_front? h
  rw [hkind] at hformed
  cases hformed

/-- The text of an operator is its spelling. -/
theorem text_of_front? (h : front? cs = some l) {op : Operator} (hop : l.kind = .operator op) :
    l.text = op.spelling := by
  have hformed := formed_of_front? h
  rw [hop] at hformed
  generalize l.text = text at hformed
  cases hformed
  rfl

end TextTemplate.Lexeme
