import TextTemplate.Token
import TextTemplate.Unicode.Identifier

/-!
# Lexemes

A lexeme is the text of a token as it stands at the front of a text:

* a *string* is a stretch between two equal quotes; a backslash takes the next character with it,
  and a line feed is allowed only behind a backslash;
* a *number* is some digits, and possibly a point and further digits, which may be missing;
* a *name* is a character that starts an identifier, or an underscore, and all characters behind it
  that continue one;
* an *operator* is the longest operator that stands there.

No two of these begin with the same character, so at most one of them stands at the front of a text.

## Main definitions

* `Lexeme`: a lexeme that is cut off the front of a text.
* `Lexeme.front?`: the lexeme at the front of a text.

## Main results

* `Lexeme.cut_of_front?`: a lexeme is not empty, and cutting it off loses nothing.
-/

namespace TextTemplate

/-- A lexeme that is cut off the front of a text, and what follows it. -/
structure Lexeme where
  kind : Token.Kind
  text : List Char
  rest : List Char

namespace Lexeme

/-- The characters that may stand between lexemes. -/
def isBlank (c : Char) : Bool :=
  c == ' ' || c == '\t' || c == '\r' || c == '\n'

/-- The characters that enclose a string. -/
def isQuote (c : Char) : Bool :=
  c == '\'' || c == '"'

/-- The characters that may start a name. -/
def isNameStart (c : Char) : Bool :=
  Identifier.isStart c || c == '_'

/-- Cuts a text behind the quote that closes a string. -/
def splitAtQuote (quote : Char) : List Char → Option (List Char × List Char)
  | '\\' :: c :: cs => (splitAtQuote quote cs).map fun (text, rest) => ('\\' :: c :: text, rest)
  | c :: cs =>
    if c = quote then some ([c], cs)
    else if c = '\\' ∨ c = '\n' then none
    else (splitAtQuote quote cs).map fun (text, rest) => (c :: text, rest)
  | [] => none

/-- The string at the front of a text. -/
def string? : List Char → Option Lexeme
  | c :: cs =>
    if isQuote c then (splitAtQuote c cs).map fun (text, rest) => ⟨.string, c :: text, rest⟩
    else none
  | [] => none

/-- Splits off a point and the digits behind it. -/
def splitFraction : List Char → List Char × List Char
  | '.' :: cs => ('.' :: cs.takeWhile Char.isDigit, cs.dropWhile Char.isDigit)
  | cs => ([], cs)

/-- The number at the front of a text. -/
def number? (cs : List Char) : Option Lexeme :=
  let digits := cs.takeWhile Char.isDigit
  let fraction := splitFraction (cs.dropWhile Char.isDigit)
  if digits = [] then none else some ⟨.number, digits ++ fraction.1, fraction.2⟩

/-- The name at the front of a text. -/
def name? : List Char → Option Lexeme
  | c :: cs =>
    if isNameStart c then
      some ⟨.name, c :: cs.takeWhile Identifier.isContinue, cs.dropWhile Identifier.isContinue⟩
    else none
  | [] => none

/-- The operator at the front of a text. -/
def operator? (cs : List Char) : Option Lexeme :=
  (Operator.front? cs).map fun (op, rest) => ⟨.operator op, op.spelling, rest⟩

/-- The lexeme at the front of a text. -/
def front? (cs : List Char) : Option Lexeme :=
  string? cs <|> number? cs <|> name? cs <|> operator? cs

/-! ### Cutting loses nothing -/

/-- A lexeme is cut off a text: it is not empty, and it is followed by the rest of the text. -/
structure IsCutFrom (l : Lexeme) (cs : List Char) : Prop where
  text_ne_nil : l.text ≠ []
  text_append_rest : l.text ++ l.rest = cs

theorem IsCutFrom.length_rest_lt {l : Lexeme} {cs : List Char} (h : l.IsCutFrom cs) :
    l.rest.length < cs.length := by
  have := List.length_pos_iff.2 h.text_ne_nil
  rw [← h.text_append_rest, List.length_append]
  omega

theorem append_of_splitAtQuote {quote : Char} {cs text rest : List Char}
    (h : splitAtQuote quote cs = some (text, rest)) : text ++ rest = cs := by
  fun_induction splitAtQuote quote cs generalizing text with
  | case1 c cs ih =>
    obtain ⟨⟨text', rest'⟩, hcut, heq⟩ := Option.map_eq_some_iff.1 h
    obtain ⟨rfl, rfl⟩ := Prod.mk.inj heq
    simp [ih hcut]
  | case2 cs _ =>
    obtain ⟨rfl, rfl⟩ := Prod.mk.inj (Option.some.inj h)
    rfl
  | case3 => simp at h
  | case4 c cs _ _ _ ih =>
    obtain ⟨⟨text', rest'⟩, hcut, heq⟩ := Option.map_eq_some_iff.1 h
    obtain ⟨rfl, rfl⟩ := Prod.mk.inj heq
    simp [ih hcut]
  | case5 => simp at h

theorem cut_of_string? {cs : List Char} {l : Lexeme} (h : string? cs = some l) :
    l.IsCutFrom cs := by
  unfold string? at h
  split at h
  · split at h
    · obtain ⟨⟨text, rest⟩, hcut, rfl⟩ := Option.map_eq_some_iff.1 h
      exact ⟨by simp, by simp [append_of_splitAtQuote hcut]⟩
    · simp at h
  · simp at h

theorem splitFraction_append (cs : List Char) :
    (splitFraction cs).1 ++ (splitFraction cs).2 = cs := by
  unfold splitFraction
  split
  · simp [List.takeWhile_append_dropWhile]
  · rfl

theorem cut_of_number? {cs : List Char} {l : Lexeme} (h : number? cs = some l) :
    l.IsCutFrom cs := by
  simp only [number?] at h
  split at h
  · simp at h
  · next hdigits =>
    obtain rfl := Option.some.inj h
    refine ⟨by simp [hdigits], ?_⟩
    rw [List.append_assoc, splitFraction_append, List.takeWhile_append_dropWhile]

theorem cut_of_name? {cs : List Char} {l : Lexeme} (h : name? cs = some l) : l.IsCutFrom cs := by
  unfold name? at h
  split at h
  · split at h
    · obtain rfl := Option.some.inj h
      exact ⟨by simp, by simp [List.takeWhile_append_dropWhile]⟩
    · simp at h
  · simp at h

theorem cut_of_operator? {cs : List Char} {l : Lexeme} (h : operator? cs = some l) :
    l.IsCutFrom cs := by
  obtain ⟨⟨op, rest⟩, hfront, rfl⟩ := Option.map_eq_some_iff.1 h
  exact ⟨op.spelling_ne_nil, (Operator.eq_of_front? hfront).symm⟩

theorem cut_of_front? {cs : List Char} {l : Lexeme} (h : front? cs = some l) : l.IsCutFrom cs := by
  simp only [front?, Option.orElse_eq_orElse, Option.orElse_eq_or, Option.or_eq_some_iff] at h
  rcases h with h | ⟨_, h | ⟨_, h | ⟨_, h⟩⟩⟩
  · exact cut_of_string? h
  · exact cut_of_number? h
  · exact cut_of_name? h
  · exact cut_of_operator? h

end Lexeme

end TextTemplate
