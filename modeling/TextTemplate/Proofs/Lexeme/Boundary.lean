import TextTemplate.Proofs.Lexeme.Longest

/-!
# Lexemes before a blank

What is found at the front of a text can depend on the text behind it, since digits go on with a
point and `*` goes on with another `*`. It does not depend on what stands behind a blank. Only
strings hold blanks, so nothing else could reach over one, and a string is closed by the first quote
that can close it.

## Main results

* `Lexeme.Formed.isBlank_eq_false`: only strings hold blanks.
* `Lexeme.Formed.eq_of_prefix_string`: no lexeme is a proper front part of a string.
* `Lexeme.IsLongest.before_blank`: the longest lexeme stays the longest one if the text is cut
  behind it, or goes on with a blank instead.
-/

namespace TextTemplate.Lexeme

variable {cs text text' : List Char} {c : Char} {kind kind' : Token.Kind}

/-- Only strings hold blanks. -/
theorem Formed.isBlank_eq_false (h : Formed kind text) (hkind : kind ≠ .string) :
    ∀ c ∈ text, isBlank c = false := by
  have hdigit (c : Char) (hc : c.isDigit = true) : isBlank c = false :=
    Lexeme.isBlank_eq_false hc (by decide)
  cases h with
  | string => exact absurd rfl hkind
  | integer h => exact fun c hc => hdigit c (h.2 c hc)
  | decimal hwhole hfraction =>
    exact List.forall_mem_append.2 ⟨fun c hc => hdigit c (hwhole.2 c hc),
      List.forall_mem_cons.2 ⟨by decide, fun c hc => hdigit c (hfraction c hc)⟩⟩
  | name h => exact fun c hc => Lexeme.isBlank_eq_false (h.isContinue c hc) (by decide)
  | operator op =>
    have hall : op.spelling.all (!isBlank ·) = true := by cases op <;> rfl
    exact fun c hc => by simpa using List.all_eq_true.1 hall c hc

/-- A lexeme that begins with a quote is a string. -/
theorem Formed.kind_eq_string (h : Formed kind (c :: cs)) (hquote : isQuote c = true) :
    kind = .string := by
  generalize htext : c :: cs = text at h
  cases h with
  | string => rfl
  | integer h =>
    obtain ⟨d, ds, rfl, hdigit⟩ := h.exists_cons
    cases htext
    rw [isQuote_eq_false hdigit (by decide)] at hquote
    cases hquote
  | decimal hwhole =>
    obtain ⟨d, ds, rfl, hdigit⟩ := hwhole.exists_cons
    cases htext
    rw [isQuote_eq_false hdigit (by decide)] at hquote
    cases hquote
  | name h =>
    subst htext
    rw [isQuote_eq_false h.1 (by decide)] at hquote
    cases hquote
  | operator op =>
    obtain ⟨d, ds, hspelling, hd, -⟩ := op.exists_spelling_eq_cons
    rw [hspelling] at htext
    cases htext
    rw [hd] at hquote
    cases hquote

/-- At most one string stands at the front of a text. -/
theorem Formed.string_eq (h : Formed .string text) (h' : Formed .string text') (hcs : text <+: cs)
    (hcs' : text' <+: cs) : text = text' := by
  obtain ⟨quote, inner, hquote, hinner, rfl⟩ := formed_string_iff.1 h
  obtain ⟨quote', inner', hquote', hinner', rfl⟩ := formed_string_iff.1 h'
  obtain ⟨rest, rfl⟩ := hcs
  obtain ⟨rest', heq⟩ := hcs'
  have hfound := string?_append hquote hinner rest
  rw [← heq, string?_append hquote' hinner' rest'] at hfound
  exact (congrArg Lexeme.text (Option.some.inj hfound)).symm

/-- A lexeme at the front of a string is the whole of it. -/
theorem Formed.eq_of_prefix_string (h : Formed kind text) (h' : Formed .string text')
    (hfront : text <+: text') : text = text' := by
  obtain ⟨c, cs, rfl⟩ := List.exists_cons_of_ne_nil h.ne_nil
  have hquote : isQuote c = true := by
    obtain ⟨quote, inner, hquote, -, rfl⟩ := formed_string_iff.1 h'
    rw [(List.cons_prefix_cons.1 hfront).1]
    exact hquote
  obtain rfl := h.kind_eq_string hquote
  exact h.string_eq h' hfront (List.prefix_refl _)

/-- The longest lexeme stays the longest one if, from some point behind it, the text is replaced by
another one that is empty or begins with a blank. -/
theorem IsLongest.before_blank {mid rest rest' : List Char}
    (h : IsLongest kind text (text ++ mid ++ rest))
    (hrest' : ∀ c ∈ rest'.head?, isBlank c = true) :
    IsLongest kind text (text ++ mid ++ rest') := by
  refine ⟨h.formed, ⟨mid ++ rest', (List.append_assoc _ _ _).symm⟩, fun kind' text' h' hfront => ?_⟩
  by_cases hlength : text'.length ≤ (text ++ mid).length
  · have hmid : text' <+: text ++ mid :=
      List.prefix_of_prefix_length_le hfront (List.prefix_append _ _) hlength
    exact h.length_le kind' text' h' (hmid.trans (List.prefix_append _ _))
  · -- a lexeme that reaches over the point holds a blank, so it is a string
    obtain ⟨d, rfl⟩ : text ++ mid <+: text' :=
      List.prefix_of_prefix_length_le (List.prefix_append _ _) hfront (Nat.le_of_not_le hlength)
    obtain ⟨c, ds, rfl⟩ : ∃ c ds, d = c :: ds := by
      refine List.exists_cons_of_ne_nil fun hd => hlength (Nat.le_of_eq ?_)
      rw [hd, List.append_nil]
    have hblank : isBlank c = true := by
      obtain ⟨tail, htail⟩ := (List.prefix_append_right_inj _).1 hfront
      exact hrest' c (by rw [← htail]; rfl)
    have hkind' : kind' = .string := by
      refine Decidable.of_not_not fun hne => ?_
      rw [h'.isBlank_eq_false hne c (List.mem_append_right _ List.mem_cons_self)] at hblank
      cases hblank
    have htext : text <+: text ++ mid ++ c :: ds :=
      (List.prefix_append text mid).trans (List.prefix_append _ _)
    have heq := h.formed.eq_of_prefix_string (hkind' ▸ h') htext
    exact Nat.le_of_eq (congrArg List.length heq.symm)

end TextTemplate.Lexeme
