import TextTemplate.Stream

/-!
# The spelling of lexemes

Each kind of lexeme has its spellings, which are described without cutting a text: a name is a
character that starts one and then characters that continue it, a numeral is some digits, a string
stands between two quotes. The longest lexeme at the front of a text may be longer than a given
spelling there, since digits go on with a point and `*` goes on with another `*`. It is never longer
when a blank follows.

## Main definitions

* `Lexeme.IsName`, `Lexeme.IsNumeral`: the spellings of names, and those of numbers without a point.
* `Lexeme.Quotable`: the texts that can stand between two quotes.
* `Lexeme.Spells`: the spellings of each kind of lexeme.

## Main results

* `Lexeme.front?_of_number?`, `Lexeme.front?_of_name?`: no other kind gets in the way of a number or
  a name.
* `Lexeme.number?_of_isNumeral`, `Lexeme.name?_of_isName`: digits and names go on as far as they
  can.
* `Lexeme.front?_append_blank`: what is spelled before a blank is the lexeme that is found there.
-/

namespace TextTemplate

namespace Lexeme

variable {cs rest : List Char} {c quote : Char} {kind : Token.Kind} {l : Lexeme}

/-- A name: a character that starts one, and then characters that continue it. -/
def IsName : List Char → Prop
  | [] => False
  | c :: cs => isNameStart c = true ∧ ∀ d ∈ cs, Identifier.isContinue d = true

instance IsName.decidable : ∀ cs, Decidable (IsName cs)
  | [] => isFalse id
  | c :: cs =>
    decidable_of_iff (isNameStart c = true ∧ cs.all Identifier.isContinue = true)
      (and_congr_right fun _ => List.all_eq_true)

/-- A number without a point: some digits. -/
def IsNumeral (cs : List Char) : Prop :=
  cs ≠ [] ∧ ∀ c ∈ cs, c.isDigit = true

/-- A text can stand between two such quotes: it consists of pairs of a backslash and any character,
and of characters other than the quote, the backslash and the line feed. -/
inductive Quotable (quote : Char) : List Char → Prop where
  | nil : Quotable quote []
  | escape (c : Char) {cs : List Char} (hrest : Quotable quote cs) :
      Quotable quote ('\\' :: c :: cs)
  | plain {c : Char} {cs : List Char} (hquote : c ≠ quote) (hslash : c ≠ '\\') (hfeed : c ≠ '\n')
      (hrest : Quotable quote cs) : Quotable quote (c :: cs)

theorem quotable_escape_iff : Quotable quote ('\\' :: c :: cs) ↔ Quotable quote cs := by
  refine ⟨fun h => ?_, .escape c⟩
  cases h with
  | escape _ hrest => exact hrest
  | plain _ hslash _ _ => exact absurd rfl hslash

theorem not_quotable_slash : ¬ Quotable quote ['\\'] := by
  intro h
  cases h with
  | plain _ hslash _ _ => exact hslash rfl

theorem quotable_cons_iff (hslash : c ≠ '\\') :
    Quotable quote (c :: cs) ↔ (c ≠ quote ∧ c ≠ '\n') ∧ Quotable quote cs := by
  refine ⟨fun h => ?_, fun ⟨⟨hquote, hfeed⟩, hrest⟩ => .plain hquote hslash hfeed hrest⟩
  cases h with
  | escape _ _ => exact absurd rfl hslash
  | plain hquote _ hfeed hrest => exact ⟨⟨hquote, hfeed⟩, hrest⟩

/-- Whether a text can stand between two quotes is decided from its front. -/
instance Quotable.decidable (quote : Char) : ∀ cs, Decidable (Quotable quote cs)
  | [] => isTrue .nil
  | c :: cs =>
    if hslash : c = '\\' then
      match cs with
      | [] => isFalse (hslash ▸ not_quotable_slash)
      | _ :: ds =>
        have := decidable quote ds
        decidable_of_iff' _ (hslash ▸ quotable_escape_iff)
    else
      have := decidable quote cs
      decidable_of_iff' _ (quotable_cons_iff hslash)

/-- The spellings of each kind of lexeme. -/
inductive Spells : Token.Kind → List Char → Prop where
  | name {cs : List Char} (h : IsName cs) : Spells .name cs
  | number {cs : List Char} (h : IsNumeral cs) : Spells .number cs
  | string {quote : Char} {cs : List Char} (hquote : isQuote quote = true)
      (h : Quotable quote cs) : Spells .string (quote :: (cs ++ [quote]))
  | operator (op : Operator) : Spells (.operator op) op.spelling

/-! ### First characters -/

theorem isQuote_iff : isQuote c = true ↔ c = '\'' ∨ c = '"' := by
  simp [isQuote]

theorem not_isNameStart_of_isDigit (h : c.isDigit = true) : isNameStart c = false := by
  have hc : 48 ≤ c.toNat ∧ c.toNat ≤ 57 := by
    simpa [Char.isDigit, UInt32.le_iff_toNat_le] using h
  have hdigits : ∀ n : Nat, n ≤ 57 → 48 ≤ n → isNameStart (Char.ofNat n) = false := by decide
  rw [← Char.ofNat_toNat c]
  exact hdigits c.toNat hc.2 hc.1

theorem isContinue_of_isNameStart {c : Char} (h : isNameStart c = true) :
    Identifier.isContinue c = true := by
  rcases Bool.or_eq_true_iff.1 h with hstart | hline
  · exact Identifier.isContinue_of_isStart hstart
  · rw [beq_iff_eq.1 hline]
    decide

theorem IsName.isContinue {cs : List Char} (h : IsName cs) :
    ∀ c ∈ cs, Identifier.isContinue c = true := by
  cases cs with
  | nil => exact absurd h id
  | cons c cs => exact List.forall_mem_cons.2 ⟨isContinue_of_isNameStart h.1, h.2⟩

/-- A character of a class without quotes is no quote. -/
theorem isQuote_eq_false {p : Char → Bool} (hc : p c = true) (hp : ['\'', '"'].any p = false) :
    isQuote c = false := by
  rw [Bool.eq_false_iff]
  intro hquote
  have hmem : c ∈ ['\'', '"'] := by simpa using isQuote_iff.1 hquote
  exact List.any_eq_false.1 hp c hmem hc

/-- A character of a class without blanks is no blank. -/
theorem isBlank_eq_false {p : Char → Bool} (hc : p c = true)
    (hp : [' ', '\t', '\r', '\n'].any p = false) : isBlank c = false := by
  rw [Bool.eq_false_iff]
  intro hblank
  have hmem : c ∈ [' ', '\t', '\r', '\n'] := by simpa [isBlank, or_assoc] using hblank
  exact List.any_eq_false.1 hp c hmem hc

theorem string?_eq_none (h : isQuote c = false) : string? (c :: cs) = none := by
  simp [string?, h]

theorem number?_eq_none (h : c.isDigit = false) : number? (c :: cs) = none := by
  simp [number?, h]

/-! ### What is found of each kind -/

theorem front?_of_string? (h : string? cs = some l) : front? cs = some l := by
  rw [front?, h]
  rfl

theorem front?_of_number? (h : number? cs = some l) : front? cs = some l := by
  cases cs with
  | nil => cases h
  | cons c cs =>
    cases hdigit : c.isDigit with
    | false =>
      rw [number?_eq_none hdigit] at h
      cases h
    | true =>
      rw [front?, string?_eq_none (isQuote_eq_false hdigit (by decide)), h]
      rfl

theorem front?_of_name? (h : name? cs = some l) : front? cs = some l := by
  cases cs with
  | nil => cases h
  | cons c cs =>
    cases hstart : isNameStart c with
    | false => simp [name?, hstart] at h
    | true =>
      have hdigit : c.isDigit = false := by
        rw [Bool.eq_false_iff]
        intro hdigit
        rw [not_isNameStart_of_isDigit hdigit] at hstart
        cases hstart
      rw [front?, string?_eq_none (isQuote_eq_false hstart (by decide)), number?_eq_none hdigit, h]
      rfl

/-- A name at the front of a text goes on as far as it can. -/
theorem name?_of_isName (h : IsName cs) (rest : List Char) :
    name? (cs ++ rest) = some ⟨.name, cs ++ rest.takeWhile Identifier.isContinue,
      rest.dropWhile Identifier.isContinue⟩ := by
  cases cs with
  | nil => exact absurd h id
  | cons c cs =>
    obtain ⟨hstart, hcontinue⟩ := h
    rw [List.cons_append, name?, if_pos hstart, List.takeWhile_append_of_pos hcontinue,
      List.dropWhile_append_of_pos hcontinue, List.cons_append]

/-- The digits at the front of a text go on as far as they can, and a point may follow them. -/
theorem number?_of_isNumeral (h : IsNumeral cs) (rest : List Char) :
    number? (cs ++ rest) =
      let fraction := splitFraction (rest.dropWhile Char.isDigit)
      some ⟨.number, cs ++ rest.takeWhile Char.isDigit ++ fraction.1, fraction.2⟩ := by
  obtain ⟨hne, hdigits⟩ := h
  have htake : (cs ++ rest).takeWhile Char.isDigit = cs ++ rest.takeWhile Char.isDigit :=
    List.takeWhile_append_of_pos hdigits
  have hdrop : (cs ++ rest).dropWhile Char.isDigit = rest.dropWhile Char.isDigit :=
    List.dropWhile_append_of_pos hdigits
  simp only [number?, htake, hdrop]
  rw [if_neg (by simp [hne])]

/-! ### Spellings before a blank -/

theorem name?_append_blank (h : IsName cs) (rest : List Char) :
    name? (cs ++ ' ' :: rest) = some ⟨.name, cs, ' ' :: rest⟩ := by
  have hblank : ¬ Identifier.isContinue ' ' = true := by decide
  rw [name?_of_isName h, List.takeWhile_cons_of_neg hblank, List.dropWhile_cons_of_neg hblank,
    List.append_nil]

theorem number?_append_blank (h : IsNumeral cs) (rest : List Char) :
    number? (cs ++ ' ' :: rest) = some ⟨.number, cs, ' ' :: rest⟩ := by
  have hblank : ¬ Char.isDigit ' ' = true := by decide
  rw [number?_of_isNumeral h, List.takeWhile_cons_of_neg hblank, List.dropWhile_cons_of_neg hblank,
    List.append_nil]
  simp [splitFraction]

/-- A text that can stand between two quotes ends at the second one. -/
theorem splitAtQuote_append (h : Quotable quote cs) (hquote : quote ≠ '\\') (rest : List Char) :
    splitAtQuote quote (cs ++ quote :: rest) = some (cs ++ [quote], rest) := by
  induction h with
  | nil =>
    rw [List.nil_append, splitAtQuote, if_pos rfl]
    · rfl
    · rintro c cs hslash -
      exact hquote hslash
  | escape c _ ih =>
    rw [List.cons_append, List.cons_append, splitAtQuote, ih]
    rfl
  | @plain c cs hc hslash hfeed _ ih =>
    rw [List.cons_append, splitAtQuote, if_neg hc, if_neg (not_or_intro hslash hfeed), ih]
    · rfl
    · rintro d ds heq -
      exact hslash heq

theorem string?_append (hquote : isQuote quote = true) (h : Quotable quote cs) (rest : List Char) :
    string? (quote :: (cs ++ [quote]) ++ rest) =
      some ⟨.string, quote :: (cs ++ [quote]), rest⟩ := by
  have hslash : quote ≠ '\\' := by
    rintro rfl
    exact absurd hquote (by decide)
  have hcs : cs ++ [quote] ++ rest = cs ++ quote :: rest := by simp
  rw [List.cons_append, hcs, string?, if_pos hquote, splitAtQuote_append h hslash]
  rfl

theorem front?_operator_append_blank (op : Operator) (rest : List Char) :
    front? (op.spelling ++ ' ' :: rest) = some ⟨.operator op, op.spelling, ' ' :: rest⟩ := by
  cases op <;> rfl

/-- What is spelled before a blank is the lexeme that is found there. -/
theorem front?_append_blank (h : Spells kind cs) (rest : List Char) :
    front? (cs ++ ' ' :: rest) = some ⟨kind, cs, ' ' :: rest⟩ := by
  cases h with
  | name h => exact front?_of_name? (name?_append_blank h rest)
  | number h => exact front?_of_number? (number?_append_blank h rest)
  | string hquote h => exact front?_of_string? (string?_append hquote h (' ' :: rest))
  | operator op => exact front?_operator_append_blank op rest

/-! ### Properties of spellings -/

/-- A spelling does not begin with a blank. -/
theorem Spells.exists_cons (h : Spells kind cs) : ∃ c ds, cs = c :: ds ∧ isBlank c = false := by
  cases h with
  | name h =>
    cases cs with
    | nil => exact absurd h id
    | cons c cs => exact ⟨c, cs, rfl, isBlank_eq_false h.1 (by decide)⟩
  | number h =>
    cases cs with
    | nil => exact absurd rfl h.1
    | cons c cs => exact ⟨c, cs, rfl, isBlank_eq_false (h.2 c List.mem_cons_self) (by decide)⟩
  | string hquote _ => exact ⟨_, _, rfl, isBlank_eq_false hquote (by decide)⟩
  | operator op => cases op <;> exact ⟨_, _, rfl, rfl⟩

end Lexeme

end TextTemplate
