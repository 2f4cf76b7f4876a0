import Mathlib.Tactic.SplitIfs
import TextTemplate.Text.Quoted

/-!
# Quoted text can be read back

A text between double quotes determines the text, and it shows where it ends: whatever follows the
closing quote, no other quoted text begins in the same way. For a character this holds since only
escape sequences begin with a backslash, since the sign behind the backslash tells them apart, and
since the digits of a code point end at the brace. For a text it follows character by character,
because what stands for a character never begins with a quote.

## Main definitions

* `Quoted.Escaped`: the three ways in which characters are written.

## Main results

* `append_inj_of_head?`: a stretch of text that ends where a property of characters does.
* `Quoted.escape_append_inj`, `Quoted.enclose_append_inj`: what is written can be read back, and so
  can what follows it.
-/

namespace TextTemplate

/-- If two stretches of text have none of certain characters, and if such a character follows them
unless the text is at its end, then they are the same stretch. -/
theorem append_inj_of_head? {stop : Char → Bool} {cs ds xs ys : List Char}
    (hcs : ∀ c ∈ cs, stop c = false) (hds : ∀ d ∈ ds, stop d = false)
    (hxs : ∀ x ∈ xs.head?, stop x = true) (hys : ∀ y ∈ ys.head?, stop y = true)
    (h : cs ++ xs = ds ++ ys) : cs = ds ∧ xs = ys := by
  have htake {us vs : List Char} (hus : ∀ u ∈ us, stop u = false)
      (hvs : ∀ v ∈ vs.head?, stop v = true) : (us ++ vs).takeWhile (!stop ·) = us := by
    have hrest : vs.takeWhile (!stop ·) = [] := by
      cases vs with
      | nil => rfl
      | cons v vs => simp [hvs v rfl]
    rw [List.takeWhile_append_of_pos fun u hu => by simp [hus u hu], hrest, List.append_nil]
  have hcut : cs = ds := by rw [← htake hcs hxs, h, htake hds hys]
  subst hcut
  exact ⟨rfl, List.append_cancel_left h⟩

/-! ### Digits -/

theorem digitChar_inj {m n : Nat} (hm : m < 16) (hn : n < 16) (h : m.digitChar = n.digitChar) :
    m = n := by
  have hall : ∀ i < 16, ∀ j < 16, Nat.digitChar i = Nat.digitChar j → i = j := by decide
  exact hall m hm n hn h

/-- The last hexadecimal digit of a number, behind those of its quotient. -/
theorem toDigits_eq_append {n : Nat} (h : ¬ n < 16) :
    Nat.toDigits 16 n = Nat.toDigits 16 (n / 16) ++ [(n % 16).digitChar] :=
  Nat.toDigits_of_base_le (by decide) (Nat.le_of_not_lt h)

/-- Hexadecimal digits determine the number. -/
theorem toDigits_inj {m n : Nat} (h : Nat.toDigits 16 m = Nat.toDigits 16 n) : m = n := by
  induction m using Nat.strongRecOn generalizing n with
  | ind m ih =>
    have hlonger (k : Nat) (c d : Char) : Nat.toDigits 16 k ++ [c] ≠ [d] := by
      intro heq
      have hnil : Nat.toDigits 16 k = [] := List.append_inj_left' heq rfl
      exact Nat.toDigits_ne_nil hnil
    by_cases hm : m < 16
    · rw [Nat.toDigits_of_lt_base hm] at h
      by_cases hn : n < 16
      · rw [Nat.toDigits_of_lt_base hn, List.singleton_inj] at h
        exact digitChar_inj hm hn h
      · rw [toDigits_eq_append hn] at h
        exact absurd h.symm (hlonger _ _ _)
    · rw [toDigits_eq_append hm] at h
      by_cases hn : n < 16
      · rw [Nat.toDigits_of_lt_base hn] at h
        exact absurd h (hlonger _ _ _)
      · rw [toDigits_eq_append hn] at h
        obtain ⟨hinit, hlast⟩ := List.append_inj' h rfl
        have hquotient : m / 16 = n / 16 := ih (m / 16) (by omega) hinit
        have hremainder : m % 16 = n % 16 :=
          digitChar_inj (by omega) (by omega) (List.singleton_inj.1 hlast)
        omega

theorem closingBrace_notMem_toDigits (n : Nat) : '}' ∉ Nat.toDigits 16 n := by
  induction n using Nat.strongRecOn with
  | ind n ih =>
    by_cases hn : n < 16
    · rw [Nat.toDigits_of_lt_base hn]
      simp
    · rw [toDigits_eq_append hn]
      have hinit := ih (n / 16) (by omega)
      simp [hinit]

namespace Quoted

variable {c d : Char} {cs ds xs ys : List Char}

/-! ### Characters -/

/-- The signs that stand behind a backslash for a character, with their characters. -/
def signs : List (Char × Char) :=
  [('"', '"'), ('\\', '\\'), ('0', '\x00'), ('t', '\t'), ('r', '\r'), ('n', '\n')]

theorem eq_of_mem_signs {sign : Char} (hc : (sign, c) ∈ signs) (hd : (sign, d) ∈ signs) :
    c = d := by
  have hall : ∀ p ∈ signs, ∀ q ∈ signs, p.1 = q.1 → p.2 = q.2 := by decide
  exact hall _ hc _ hd rfl

theorem u_notMem_signs : ('u', c) ∉ signs := by
  have hall : ∀ p ∈ signs, p.1 ≠ 'u' := by decide
  exact fun hc => hall _ hc rfl

/-- What stands for a character between double quotes: the character itself, an escape sequence with
a sign, or one with its code point. -/
inductive Escaped (c : Char) : List Char → Prop where
  | plain (hslash : c ≠ '\\') (hquote : c ≠ '"') : Escaped c [c]
  | sign {sign : Char} (h : (sign, c) ∈ signs) : Escaped c ['\\', sign]
  | codePoint : Escaped c (codePoint c)

theorem escaped_escape (c : Char) : Escaped c (escape '"' c) := by
  unfold escape
  split_ifs with hquote hnull htab hreturn hfeed
  · rcases hquote with rfl | rfl <;> exact .sign (by decide)
  · subst hnull
    exact .sign (by decide)
  · subst htab
    exact .sign (by decide)
  · subst hreturn
    exact .sign (by decide)
  · subst hfeed
    exact .sign (by decide)
  · rw [not_or] at hquote
    exact .plain hquote.2 hquote.1
  · exact .codePoint

/-- A code point can be read back, and so can what follows it. -/
theorem codePoint_append_inj (h : codePoint c ++ xs = codePoint d ++ ys) : c = d ∧ xs = ys := by
  have hdigits (e : Char) : ∀ x ∈ Nat.toDigits 16 e.toNat, (x == '}') = false := by
    intro x hx
    rw [beq_eq_false_iff_ne]
    rintro rfl
    exact closingBrace_notMem_toDigits e.toNat hx
  simp only [codePoint, List.cons_append, List.append_assoc, List.cons.injEq, true_and,
    List.nil_append] at h
  obtain ⟨htoNat, hrest⟩ :=
    append_inj_of_head? (hdigits c) (hdigits d) (by simp) (by simp) h
  exact ⟨Char.toNat_inj.1 (toDigits_inj htoNat), (List.cons.inj hrest).2⟩

/-- What stands for a character can be read back, and so can what follows it. -/
theorem escape_append_inj (h : escape '"' c ++ xs = escape '"' d ++ ys) : c = d ∧ xs = ys := by
  generalize hc : escape '"' c = us at h
  generalize hd : escape '"' d = vs at h
  obtain hc : Escaped c us := hc ▸ escaped_escape c
  obtain hd : Escaped d vs := hd ▸ escaped_escape d
  cases hc with
  | plain hslash _ =>
    cases hd with
    | plain => exact List.cons.inj h
    | sign | codePoint => exact absurd (List.cons.inj h).1 hslash
  | sign hsign =>
    cases hd with
    | plain hslash _ => exact absurd (List.cons.inj h).1.symm hslash
    | sign hsign' =>
      obtain ⟨rfl, hrest⟩ := List.cons.inj (List.cons.inj h).2
      exact ⟨eq_of_mem_signs hsign hsign', hrest⟩
    | codePoint =>
      obtain ⟨rfl, -⟩ := List.cons.inj (List.cons.inj h).2
      exact absurd hsign u_notMem_signs
  | codePoint =>
    cases hd with
    | plain hslash _ => exact absurd (List.cons.inj h).1.symm hslash
    | sign hsign =>
      obtain ⟨rfl, -⟩ := List.cons.inj (List.cons.inj h).2
      exact absurd hsign u_notMem_signs
    | codePoint => exact codePoint_append_inj h

/-- What stands for a character does not begin with the quote that ends the text. -/
theorem escape_append_ne (c : Char) (xs ys : List Char) : escape '"' c ++ xs ≠ '"' :: ys := by
  intro h
  have hfirst {us : List Char} (hc : Escaped c us) (h : us ++ xs = '"' :: ys) : False := by
    cases hc with
    | plain _ hquote => exact hquote (List.cons.inj h).1
    | sign | codePoint => exact absurd (List.cons.inj h).1 (by decide)
  exact hfirst (escaped_escape c) h

/-! ### Texts -/

/-- A text between double quotes can be read back, and so can what follows it. -/
theorem enclose_append_inj (h : enclose '"' cs ++ xs = enclose '"' ds ++ ys) :
    cs = ds ∧ xs = ys := by
  simp only [enclose, List.cons_append, List.append_assoc, List.cons.injEq, true_and,
    List.nil_append] at h
  induction cs generalizing ds with
  | nil =>
    cases ds with
    | nil => exact ⟨rfl, (List.cons.inj h).2⟩
    | cons d ds =>
      rw [List.flatMap_cons, List.append_assoc] at h
      exact absurd h.symm (escape_append_ne d _ _)
  | cons c cs ih =>
    rw [List.flatMap_cons, List.append_assoc] at h
    cases ds with
    | nil => exact absurd h (escape_append_ne c _ _)
    | cons d ds =>
      rw [List.flatMap_cons, List.append_assoc] at h
      obtain ⟨rfl, hrest⟩ := escape_append_inj h
      obtain ⟨rfl, hxs⟩ := ih hrest
      exact ⟨rfl, hxs⟩

end Quoted

end TextTemplate
