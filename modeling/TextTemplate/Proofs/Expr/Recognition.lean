import TextTemplate.Proofs.Expr.Grammar

/-!
# Reading expressions is exact

An expression is read exactly if the tokens that were taken derive it, its brackets are nested no
deeper than the limit, and the token behind them begins no trailer. One direction is that reading
comes to what is derived. For the other, the loop keeps an *unfinished derivation*: the tokens that
have been taken derive the expression before each open bracket and the one behind the innermost. A
trailer extends the last of these, an opening bracket starts another one, and a closing bracket
joins the last two.

On the list of all tokens of a text this says that reading takes the longest expression at the front
of the list, and that it fails if there is none.

## Main definitions

* `Expr.Unfinished`: what has been derived when some brackets are open.
* `Expr.Halts`: reading stops before the next token.
* `Expr.Denotes`: the literal or variable of a token.
* `Expr.Heads`: an expression at the front of a list of tokens.

## Main results

* `Expr.parse_eq_ok_iff`: what is read, for all streams.
* `Expr.parse_iff_heads`: what is read from the front of a text.
-/

namespace TextTemplate

theorem natOfDigits_eq (ds : List Char) : natOfDigits ds = Nat.ofDigitChars 10 ds 0 :=
  Nat.ofDigitChars_eq_foldl.symm

namespace Numeral

theorem splitSign_of_isDigit {c : Char} (h : c.isDigit = true) (cs : List Char) :
    splitSign (c :: cs) = (false, c :: cs) := by
  unfold splitSign
  split
  · next heq =>
    cases heq
    exact absurd h (by decide)
  · next heq =>
    cases heq
    exact absurd h (by decide)
  · rfl

/-- Digits with a point among or behind them are a numeral. -/
theorem ofChars?_decimal {whole fraction : List Char} (hwhole : Lexeme.IsNumeral whole)
    (hfraction : ∀ c ∈ fraction, c.isDigit = true) :
    ofChars? (whole ++ '.' :: fraction) =
      some ⟨false, Nat.ofDigitChars 10 (whole ++ fraction) 0, -fraction.length⟩ := by
  obtain ⟨hne, hdigits⟩ := hwhole
  have hsign : splitSign (whole ++ '.' :: fraction) = (false, whole ++ '.' :: fraction) := by
    obtain ⟨c, cs, rfl⟩ := List.exists_cons_of_ne_nil hne
    exact splitSign_of_isDigit (hdigits c List.mem_cons_self) _
  have htake : (whole ++ '.' :: fraction).takeWhile Char.isDigit = whole := by
    rw [List.takeWhile_append_of_pos hdigits, List.takeWhile_cons_of_neg (by decide),
      List.append_nil]
  have hdrop : (whole ++ '.' :: fraction).dropWhile Char.isDigit = '.' :: fraction := by
    rw [List.dropWhile_append_of_pos hdigits, List.dropWhile_cons_of_neg (by decide)]
  have hsplit : splitFraction ('.' :: fraction) = (fraction, []) := by
    have hall : (fraction ++ []).takeWhile Char.isDigit = fraction ++ [].takeWhile Char.isDigit :=
      List.takeWhile_append_of_pos hfraction
    have hnone : (fraction ++ []).dropWhile Char.isDigit = [].dropWhile Char.isDigit :=
      List.dropWhile_append_of_pos hfraction
    simp only [List.append_nil, List.takeWhile_nil, List.dropWhile_nil] at hall hnone
    rw [splitFraction, hall, hnone]
  simp only [ofChars?, hsign, htake, hdrop, hsplit, hne, false_and, if_false, exponent?,
    Option.map_some, natOfDigits_eq, Int.zero_sub]

end Numeral

namespace Expr

variable {limit depth : Nat} {stack : List Expr} {base e e' : Expr} {s s' s₁ s₂ : Stream}
  {t left : Token} {us vs ws : List Token}

theorem bracketDepth_of_atom (h : atom t = .ok e) : e.bracketDepth = 0 := by
  unfold atom at h
  split at h
  · cases h
    rfl
  · split at h <;> cases h
    rfl
  · cases h
    rfl
  · cases h
  · cases h

/-- The tokens that have been taken when some brackets are open. They derive the expression before
each open bracket and the one behind the innermost, and none of these is nested too deep. -/
inductive Unfinished (limit depth : Nat) : List Expr → Expr → List Token → Prop where
  | outside {e : Expr} {us : List Token} (h : Derives us e)
      (hdepth : depth + e.bracketDepth ≤ limit) : Unfinished limit depth [] e us
  | inside {stack : List Expr} {base e : Expr} {ws us : List Token} {left : Token}
      (hbase : Unfinished limit depth stack base ws) (hleft : left.kind = .operator .leftBracket)
      (h : Derives us e) (hdepth : depth + (stack.length + 1) + e.bracketDepth ≤ limit) :
      Unfinished limit depth (base :: stack) e (ws ++ left :: us)

theorem Unfinished.depth_le (h : Unfinished limit depth stack e ws) :
    depth + stack.length + e.bracketDepth ≤ limit := by
  cases h with
  | outside _ hdepth => exact hdepth
  | inside _ _ _ hdepth => exact hdepth

/-- Whatever extends the last expression extends the tokens. -/
theorem Unfinished.extend (h : Unfinished limit depth stack e ws)
    (hderives : ∀ us, Derives us e → Derives (us ++ vs) e')
    (hdepth : depth + stack.length + e'.bracketDepth ≤ limit) :
    Unfinished limit depth stack e' (ws ++ vs) := by
  cases h with
  | outside h _ => exact .outside (hderives _ h) hdepth
  | inside hbase hleft h _ =>
    rw [List.append_assoc, List.cons_append]
    exact .inside hbase hleft (hderives _ h) hdepth

/-- A closing bracket joins the last two expressions. -/
theorem Unfinished.close (h : Unfinished limit depth (base :: stack) e ws)
    (ht : t.kind = .operator .rightBracket) :
    Unfinished limit depth stack (.item base e) (ws ++ [t]) := by
  cases h with
  | inside hbase hleft h hdepth =>
    have hitem : depth + stack.length + (item base e).bracketDepth ≤ limit := by
      have hbaseDepth := hbase.depth_le
      simp only [bracketDepth]
      omega
    rw [List.append_assoc, List.cons_append]
    exact hbase.extend (fun us hus => .item hus hleft h ht) hitem

/-- Reading stops before the next token of a stream, which begins no trailer. It is pushed back
unless it is the end marker. -/
def Halts (s s' : Stream) : Prop :=
  ∃ t s₁, s.next = .ok t s₁ ∧ ¬ StartsTrailer t ∧ s' = if t.isEnd then s₁ else s₁.unread t

/-- What the loop takes completes the unfinished derivation. -/
theorem derives_of_continueFrom (hws : Unfinished limit depth stack e ws)
    (h : continueFrom limit depth stack e s = .ok e' s') :
    ∃ us s₁, s.Takes us s₁ ∧ Derives (ws ++ us) e' ∧ depth + e'.bracketDepth ≤ limit ∧
      Halts s₁ s' := by
  fun_induction continueFrom limit depth stack e s generalizing ws with
  | case1 | case2 | case4 | case5 | case6 | case7 | case8 | case11 => cases h
  | case3 e s t s₁ hnext stack hdot name s₂ hname hkind ih =>
    have hws' := hws.extend (fun us hus => .member hus hdot hkind) hws.depth_le
    obtain ⟨us, s₃, htakes, hderives, hdepth, hhalts⟩ := ih hws' h
    rw [List.append_assoc] at hderives
    exact ⟨t :: name :: us, s₃,
      .cons hnext (by simp [Token.isEnd, hdot]) (.cons hname (by simp [Token.isEnd, hkind]) htakes),
      hderives, hdepth, hhalts⟩
  | case9 e s t s₁ hnext stack hleft hlimit first s₂ hfirst hend key hkey ih =>
    have hkeyDepth : depth + (stack.length + 1) + key.bracketDepth ≤ limit := by
      rw [bracketDepth_of_atom hkey]
      omega
    obtain ⟨us, s₃, htakes, hderives, hdepth, hhalts⟩ :=
      ih (.inside hws hleft (.atom hkey) hkeyDepth) h
    rw [List.append_assoc, List.cons_append] at hderives
    exact ⟨t :: first :: us, s₃,
      .cons hnext (by simp [Token.isEnd, hleft]) (.cons hfirst (by simpa using hend) htakes),
      hderives, hdepth, hhalts⟩
  | case10 e s t s₁ hnext base stack hright ih =>
    obtain ⟨us, s₂, htakes, hderives, hdepth, hhalts⟩ := ih (hws.close hright) h
    rw [List.append_assoc] at hderives
    exact ⟨t :: us, s₂, .cons hnext (by simp [Token.isEnd, hright]) htakes, hderives, hdepth,
      hhalts⟩
  | case12 e s t s₁ hnext hdot hleft =>
    cases h
    cases hws with
    | outside h hdepth =>
      rw [← List.append_nil ws] at h
      exact ⟨[], s, .nil, h, hdepth, t, s₁, hnext, not_or.2 ⟨hdot, hleft⟩, rfl⟩

/-- An expression is read exactly if the tokens that are taken derive it, and reading stops behind
them. -/
theorem parse_eq_ok_iff : parse limit s = .ok e s' ↔
    ∃ us s₁, s.Takes us s₁ ∧ Derives us e ∧ e.bracketDepth ≤ limit ∧ Halts s₁ s' := by
  constructor
  · intro h
    obtain ⟨t, s₁, hnext, hloop⟩ := Scan.bind_eq_ok_iff.1 h
    cases ha : atom t with
    | error cause =>
      rw [ha] at hloop
      cases hloop
    | ok a =>
      rw [ha] at hloop
      have hstart : Unfinished limit 0 [] a [t] :=
        .outside (.atom ha) (by rw [bracketDepth_of_atom ha]; exact Nat.zero_le _)
      obtain ⟨us, s₂, htakes, hderives, hdepth, hhalts⟩ := derives_of_continueFrom hstart hloop
      have hend : t.isEnd = false := by
        rw [Bool.eq_false_iff]
        exact mt Token.isEnd_iff.1 (kind_ne_endMarker_of_atom ha)
      exact ⟨t :: us, s₂, .cons hnext hend htakes, hderives, by simpa using hdepth, hhalts⟩
  · rintro ⟨us, s₁, htakes, hderives, hdepth, t, s₂, hnext, hstop, rfl⟩
    have hreaches : Reaches limit 0 [] s e s₁ :=
      reaches_of_takes 0 [] hderives (by simpa using hdepth) htakes
    rw [parse_eq_continueFrom hreaches, continueFrom_stop hnext hstop]

/-! ### Atoms -/

/-- What a token stands for: a string for the text between its quotes, a number with a point for the
nearest floating-point number, a number without one for the integer of its digits, which must fit
into 64 bits, and a name for the variable. -/
inductive Denotes (t : Token) : Expr → Prop where
  | string {first last : Char} {inner : List Char} (hkind : t.kind = .string)
      (htext : t.text.toList = first :: (inner ++ [last])) :
      Denotes t (.literal (.string (String.ofList inner)))
  | float {whole fraction : List Char} (hkind : t.kind = .number)
      (hwhole : Lexeme.IsNumeral whole) (hfraction : ∀ c ∈ fraction, c.isDigit = true)
      (htext : t.text.toList = whole ++ '.' :: fraction) :
      Denotes t (.literal (.float
        (Numeral.toDouble ⟨false, Nat.ofDigitChars 10 (whole ++ fraction) 0, -fraction.length⟩)))
  | int {n : Int64} (hkind : t.kind = .number) (hpoint : '.' ∉ t.text.toList)
      (hn : n.toInt = Nat.ofDigitChars 10 t.text.toList 0) : Denotes t (.literal (.int n))
  | name (hkind : t.kind = .name) : Denotes t (.lookup t.text)

/-- A number without a point denotes the integer of its digits, if that fits into 64 bits. -/
theorem number?_integer {cs : List Char} {v : Value} (hpoint : '.' ∉ cs) :
    number? cs = some v ↔ ∃ n : Int64, n.toInt = Nat.ofDigitChars 10 cs 0 ∧ v = .int n := by
  have hlimit : greatestInteger = 2 ^ 63 - 1 := by decide
  simp only [number?, if_neg hpoint, natOfDigits_eq, hlimit]
  generalize Nat.ofDigitChars 10 cs 0 = k
  constructor
  · intro h
    split at h
    · next hk =>
      cases h
      exact ⟨_, Int64.toInt_ofNat_of_lt (by omega), rfl⟩
    · cases h
  · rintro ⟨n, hn, rfl⟩
    have hlt := Int64.toInt_lt n
    have hint : Int64.ofNat k = n := by
      rw [← Int64.ofInt_toInt n, hn]
      rfl
    rw [if_pos (by omega), hint]

theorem number?_decimal {whole fraction : List Char} (hwhole : Lexeme.IsNumeral whole)
    (hfraction : ∀ c ∈ fraction, c.isDigit = true) :
    number? (whole ++ '.' :: fraction) = some (.float
      (Numeral.toDouble ⟨false, Nat.ofDigitChars 10 (whole ++ fraction) 0, -fraction.length⟩)) := by
  have hpoint : '.' ∈ whole ++ '.' :: fraction := by simp
  rw [number?, if_pos hpoint, Numeral.ofChars?_decimal hwhole hfraction, Option.map_some]

/-- An atom is what the token stands for. -/
theorem atom_eq_ok_iff (h : Lexeme.Formed t.kind t.text.toList) :
    atom t = .ok e ↔ Denotes t e := by
  constructor
  · intro hatom
    unfold atom at hatom
    split at hatom
    · next hkind =>
      cases hatom
      rw [hkind] at h
      obtain ⟨quote, inner, -, -, htext⟩ := Lexeme.formed_string_iff.1 h
      have hinner : unquoted t.text.toList = inner := by simp [unquoted, htext]
      rw [hinner]
      exact .string hkind htext
    · next hkind =>
      split at hatom
      · next v hv =>
        cases hatom
        rw [hkind] at h
        rcases Lexeme.formed_number_iff.1 h with
          hdigits | ⟨whole, fraction, hwhole, hfraction, htext⟩
        · have hpoint : '.' ∉ t.text.toList := fun hmem => absurd (hdigits.2 _ hmem) (by decide)
          obtain ⟨n, hn, rfl⟩ := (number?_integer hpoint).1 hv
          exact .int hkind hpoint hn
        · rw [htext, number?_decimal hwhole hfraction] at hv
          cases hv
          exact .float hkind hwhole hfraction htext
      · cases hatom
    · next hkind =>
      cases hatom
      exact .name hkind
    · cases hatom
    · cases hatom
  · intro hdenotes
    cases hdenotes with
    | string hkind htext => simp [atom, hkind, htext, unquoted]
    | float hkind hwhole hfraction htext =>
      simp only [atom, hkind, htext, number?_decimal hwhole hfraction]
    | int hkind hpoint hn =>
      simp only [atom, hkind, (number?_integer hpoint).2 ⟨_, hn, rfl⟩]
    | name hkind => simp only [atom, hkind]

/-- A single token derives what it stands for. -/
theorem derives_singleton_iff : Derives [t] e ↔ atom t = .ok e := by
  refine ⟨fun h => ?_, .atom⟩
  generalize hts : [t] = ts at h
  cases h with
  | atom h =>
    cases hts
    exact h
  | member => exact absurd (congrArg List.length hts) (by simp)
  | item => exact absurd (congrArg List.length hts) (by simp; omega)

/-! ### The front of a text -/

/-- The first `k` tokens of a list are those of an expression whose brackets are nested no deeper
than the limit, and the token behind them, which may be the end marker, begins no trailer. -/
structure Heads (limit : Nat) (ts : List Token) (k : Nat) (e : Expr) : Prop where
  derives : Derives (ts.take k) e
  depth_le : e.bracketDepth ≤ limit
  exists_next : ∃ t, ts[k]? = some t ∧ ¬ StartsTrailer t

/-- A single token of a text derives what it denotes. -/
theorem derives_singleton_iff_denotes (hs : s.pending = []) (ht : t ∈ s.tokens) :
    Derives [t] e ↔ Denotes t e := by
  rw [derives_singleton_iff]
  cases hend : t.isEnd with
  | true =>
    have hkind := Token.isEnd_iff.1 hend
    constructor
    · intro hatom
      exact absurd hkind (kind_ne_endMarker_of_atom hatom)
    · intro hdenotes
      cases hdenotes <;> simp_all
  | false =>
    obtain ⟨cs, tail, hfront⟩ := Stream.front?_of_mem_tokens hs ht hend
    exact atom_eq_ok_iff (Lexeme.formed_of_front? hfront)

/-- The token before which reading stops is delivered next. -/
theorem next_of_stop (hs : s.pending = []) (h : s.next = .ok t s₁) :
    ∃ s₂, (if t.isEnd then s₁ else s₁.unread t).next = .ok t s₂ := by
  cases ht : t.isEnd with
  | true => exact ⟨s₁, (Stream.next_of_isEnd hs h ht).2⟩
  | false => exact ⟨s₁, rfl⟩

/-- What is read stands at the front of the list of tokens, and the token behind it comes next. -/
theorem heads_of_parse (hs : s.pending = []) (h : parse limit s = .ok e s') :
    ∃ k t s₁, Heads limit s.tokens k e ∧ s'.next = .ok t s₁ ∧ s.tokens[k]? = some t := by
  obtain ⟨us, s₁, htakes, hderives, hdepth, t, s₂, hnext, hstop, rfl⟩ := parse_eq_ok_iff.1 h
  obtain ⟨s₃, hnext'⟩ := next_of_stop (htakes.pending_eq_nil hs) hnext
  have htokens := htakes.tokens_eq
  have hget : s.tokens[us.length]? = some t := by
    rw [htokens, List.getElem?_append_right (Nat.le_refl _), Nat.sub_self, ← List.head?_eq_getElem?,
      Stream.head?_tokens hnext]
  refine ⟨us.length, t, s₃, ⟨?_, hdepth, t, hget, hstop⟩, hnext', hget⟩
  rw [htokens, List.take_left]
  exact hderives

/-- What stands at the front of the list of tokens is read. -/
theorem parse_of_heads {k : Nat} (hs : s.pending = []) (h : Heads limit s.tokens k e) :
    ∃ s' t s₁, parse limit s = .ok e s' ∧ s'.next = .ok t s₁ ∧ s.tokens[k]? = some t := by
  obtain ⟨hderives, hdepth, t, hget, hstop⟩ := h
  obtain ⟨hlt, hget'⟩ := List.getElem?_eq_some_iff.1 hget
  have hsplit : s.tokens = s.tokens.take k ++ t :: s.tokens.drop (k + 1) := by
    rw [← hget', List.getElem_cons_drop, List.take_append_drop]
  obtain ⟨s₁, s₂, htakes, hnext⟩ := Stream.exists_takes_of_tokens hsplit
  obtain ⟨s₃, hnext'⟩ := next_of_stop (htakes.pending_eq_nil hs) hnext
  exact ⟨_, t, s₃, parse_eq_ok_iff.2 ⟨_, s₁, htakes, hderives, hdepth, t, s₂, hnext, hstop, rfl⟩,
    hnext', hget⟩

/-- An expression at the front of a text is read exactly if the first tokens derive it and the token
behind them begins no trailer, and then that token comes next. If no expression stands there, an
error is reported. The atoms of the grammar are the tokens with what they stand for. -/
theorem parse_iff_heads (limit : Nat) (content : String) (origin : Location) :
    let s := Stream.ofContent content origin
    (∀ e k, (∃ s' t s₁, parse limit s = .ok e s' ∧ s'.next = .ok t s₁ ∧ s.tokens[k]? = some t) ↔
        Heads limit s.tokens k e) ∧
      ((∃ err s', parse limit s = .error err s') ↔ ∀ e k, ¬ Heads limit s.tokens k e) ∧
      ∀ t ∈ s.tokens, ∀ e, Derives [t] e ↔ Denotes t e := by
  intro s
  have hs : s.pending = [] := rfl
  refine ⟨fun e k => ⟨?_, parse_of_heads hs⟩, ⟨?_, ?_⟩, fun t ht e => ?_⟩
  · rintro ⟨s', t, s₁, hparse, hnext, hget⟩
    obtain ⟨k', t', s₂, hheads, hnext', hget'⟩ := heads_of_parse hs hparse
    rw [hnext] at hnext'
    cases hnext'
    -- a token stands at one place of the list only
    obtain ⟨hlt, -⟩ := List.getElem?_eq_some_iff.1 hget
    obtain rfl : k = k' :=
      (List.getElem?_inj hlt (Stream.nodup_tokens hs (Stream.measured_ofContent _ _))).1
        (hget.trans hget'.symm)
    exact hheads
  · rintro ⟨err, s', hparse⟩ e k hheads
    obtain ⟨s'', -, -, hparse', -⟩ := parse_of_heads hs hheads
    rw [hparse] at hparse'
    cases hparse'
  · intro hnone
    cases hparse : parse limit s with
    | error err s' => exact ⟨err, s', rfl⟩
    | ok e s' =>
      obtain ⟨k, -, -, hheads, -⟩ := heads_of_parse hs hparse
      exact absurd hheads (hnone e k)
  · exact derives_singleton_iff_denotes hs ht

end Expr

end TextTemplate
