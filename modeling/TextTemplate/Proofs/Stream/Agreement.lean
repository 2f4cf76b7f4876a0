import TextTemplate.Proofs.Expr.Failure
import TextTemplate.Proofs.Stream.Rereading

/-!
# Streams that deliver the same words

Two streams agree if they deliver the same words up to the end marker. Then one call gives tokens of
one word on both sides and comes to streams that agree again. A reader that looks at nothing but the
words of its tokens does the same on both, except for the locations that it reports. This is a
relation between two readers that is kept by every way to put readers together.

The tokens of a text, written one behind the other with single blanks between them, are read back as
they were. A token may hold blanks, or end where more could follow, like `4.` or `*`, but no other
lexeme begins with it and reaches over a blank.

## Main definitions

* `Stream.Agrees`: two streams deliver the same words.
* `Scan.Alike`: two results that differ in locations only.
* `Scan.Matches`: two readers give such results on streams that agree.
* `Stream.joined`: the text of some tokens with single blanks between them.

## Main results

* `Stream.Agrees.exists_next`: how streams that agree go on.
* `Scan.Matches.bind`: composite readers give such results if their parts do.
* `Stream.exists_delivers_joined`: tokens with single blanks between them are read back.
-/

namespace TextTemplate

theorem Token.kind_congr {t u : Token} (h : t.word = u.word) : t.kind = u.kind :=
  (Prod.mk.inj h).1

theorem Token.text_congr {t u : Token} (h : t.word = u.word) : t.text = u.text :=
  (Prod.mk.inj h).2

theorem Token.isEnd_congr {t u : Token} (h : t.word = u.word) : t.isEnd = u.isEnd :=
  congrArg (fun w : Word => decide (w.1 = .endMarker)) h

theorem Token.isOperator_congr {t u : Token} (h : t.word = u.word) (op : Operator) :
    t.isOperator op = u.isOperator op :=
  congrArg (fun w : Word => decide (w.1 = .operator op)) h

namespace Stream

variable {s s' s₁ s₁' : Stream} {t : Token} {ts us : List Token}

/-! ### Agreement -/

/-- Two streams deliver the same words up to the end marker, behind which nothing comes. -/
inductive Agrees : Stream → Stream → Prop where
  | finish {s s' s₁ s₁' : Stream} {t t' : Token} (h : s.next = .ok t s₁) (h' : s'.next = .ok t' s₁')
      (hend : t.isEnd = true) (hword : t.word = t'.word) (hs₁ : s₁.IsSpent) (hs₁' : s₁'.IsSpent) :
      Agrees s s'
  | cons {s s' s₁ s₁' : Stream} {t t' : Token} (h : s.next = .ok t s₁) (h' : s'.next = .ok t' s₁')
      (hend : t.isEnd = false) (hword : t.word = t'.word) (hrest : Agrees s₁ s₁') : Agrees s s'

/-- Spent streams agree. -/
theorem IsSpent.agrees (h : s.IsSpent) (h' : s'.IsSpent) : s.Agrees s' :=
  .finish h.next_eq h'.next_eq rfl rfl h h'

/-- The next token has the same word on both sides, and the streams behind it agree. They agree just
as well if the token is pushed back, even if it is the end marker. -/
theorem Agrees.exists_next (h : s.Agrees s') (hnext : s.next = .ok t s₁) :
    ∃ t' s₁', s'.next = .ok t' s₁' ∧ t.word = t'.word ∧ s₁.Agrees s₁' ∧
      (s₁.unread t).Agrees (s₁'.unread t') := by
  cases h with
  | finish hs hs' hend hword hs₁ hs₁' =>
    rw [hnext] at hs
    cases hs
    exact ⟨_, _, hs', hword, hs₁.agrees hs₁', .finish rfl rfl hend hword hs₁ hs₁'⟩
  | cons hs hs' hend hword hrest =>
    rw [hnext] at hs
    cases hs
    exact ⟨_, _, hs', hword, hrest, .cons rfl rfl hend hword hrest⟩

/-- Streams that agree come to their ends without an error. -/
theorem Agrees.next_ne_error {err : Error} (h : s.Agrees s') : s.next ≠ .error err s₁ := by
  intro hnext
  cases h with
  | finish hs => cases hnext.symm.trans hs
  | cons hs => cases hnext.symm.trans hs

/-- The end marker that is read from a text has no text. -/
theorem word_of_isEnd (hs : s.pending = []) (h : s.next = .ok t s₁) (ht : t.isEnd = true) :
    t.word = (.endMarker, "") := by
  rw [((scanned_of_next hs h).finished ht).2]
  rfl

/-- Streams that deliver the same words agree. -/
theorem Delivers.agrees (h : s.Delivers ts none) (h' : s'.Delivers us none)
    (hs : s.pending = []) (hs' : s'.pending = [])
    (hwords : ts.map Token.word = us.map Token.word) : s.Agrees s' := by
  induction ts generalizing s s' us with
  | nil =>
    obtain rfl := List.map_eq_nil_iff.1 hwords.symm
    obtain ⟨t, s₁, hnext, hend, hs₁⟩ := delivers_nil_iff.1 h
    obtain ⟨t', s₁', hnext', hend', hs₁'⟩ := delivers_nil_iff.1 h'
    have hword : t.word = t'.word :=
      (word_of_isEnd hs hnext hend).trans (word_of_isEnd hs' hnext' hend').symm
    exact .finish hnext hnext' hend hword hs₁ hs₁'
  | cons t ts ih =>
    obtain ⟨u, us, rfl, hword, htail⟩ := List.map_eq_cons_iff.1 hwords.symm
    obtain ⟨s₁, hnext, hend, hs₁⟩ := delivers_cons_iff.1 h
    obtain ⟨s₁', hnext', -, hs₁'⟩ := delivers_cons_iff.1 h'
    exact .cons hnext hnext' hend hword.symm
      (ih hs₁ hs₁' (pending_of_next hs hnext) (pending_of_next hs' hnext') htail.symm)

end Stream

/-! ### Readers -/

namespace Scan

variable {α β : Type} {R : α → α → Prop} {S : β → β → Prop}

/-- Two results that cannot be told apart without looking at places: related values, behind which
the same words come, or the same fault, which may be reported at different locations. -/
inductive Alike (R : α → α → Prop) :
    EStateM.Result Error Stream α → EStateM.Result Error Stream α → Prop where
  | ok {a a' : α} {s s' : Stream} (ha : R a a') (hs : s.Agrees s') : Alike R (.ok a s) (.ok a' s')
  | error {cause : GrammarError} {loc loc' : Location} {s s' : Stream} :
      Alike R (.error (.grammar cause loc) s) (.error (.grammar cause loc') s')

theorem Alike.of_ok {a : α} {s : Stream} {result : EStateM.Result Error Stream α}
    (h : Alike Eq (.ok a s) result) : ∃ s', result = .ok a s' ∧ s.Agrees s' := by
  cases h with
  | ok ha hs => exact ⟨_, ha ▸ rfl, hs⟩

theorem Alike.of_error {err : Error} {s : Stream} {result : EStateM.Result Error Stream α}
    (h : Alike R (.error err s) result) :
    ∃ cause loc loc' s', err = .grammar cause loc ∧ result = .error (.grammar cause loc') s' := by
  cases h with
  | error => exact ⟨_, _, _, _, rfl, rfl⟩

/-- Two readers give alike results on all streams that agree. -/
def Matches (R : α → α → Prop) (f f' : Scan α) : Prop :=
  ∀ s s', s.Agrees s' → Alike R (f s) (f' s')

/-- What the first reader gives, the second one gives as well. -/
theorem Matches.of_ok {f f' : Scan α} {s s' s₁ : Stream} {a : α} (h : Matches Eq f f')
    (hs : s.Agrees s') (hf : f s = .ok a s₁) : ∃ s₁', f' s' = .ok a s₁' ∧ s₁.Agrees s₁' :=
  Alike.of_ok (hf ▸ h s s' hs)

/-- Where the first reader fails, the second one fails for the same reason. -/
theorem Matches.of_error {f f' : Scan α} {s s' s₁ : Stream} {err : Error} (h : Matches R f f')
    (hs : s.Agrees s') (hf : f s = .error err s₁) :
    ∃ cause loc loc' s₁', err = .grammar cause loc ∧
      f' s' = .error (.grammar cause loc') s₁' :=
  Alike.of_error (hf ▸ h s s' hs)

theorem Matches.pure {a a' : α} (h : R a a') : Matches R (pure a) (pure a') :=
  fun _ _ hs => .ok h hs

theorem Matches.bind {f f' : Scan α} {g g' : α → Scan β} (h : Matches R f f')
    (hg : ∀ a a', R a a' → Matches S (g a) (g' a')) : Matches S (f >>= g) (f' >>= g') := by
  intro s s' hs
  have hf := h s s' hs
  simp only [Bind.bind, EStateM.bind]
  generalize f s = result at hf
  generalize f' s' = result' at hf
  cases hf with
  | ok ha hs₁ => exact hg _ _ ha _ _ hs₁
  | error => exact .error

/-- One call gives tokens of one word. -/
theorem matches_next : Matches (fun t t' => t.word = t'.word) Stream.next Stream.next := by
  intro s s' hs
  cases hnext : s.next with
  | error err s₁ => exact absurd hnext hs.next_ne_error
  | ok t s₁ =>
    obtain ⟨t', s₁', hnext', hword, hs₁, -⟩ := hs.exists_next hnext
    rw [hnext']
    exact .ok hword hs₁

theorem alike_fail {cause : GrammarError} {t t' : Token} {s s' : Stream} :
    Alike R (Stream.fail cause t s) (Stream.fail cause t' s') :=
  .error

theorem alike_unexpected {expected : Expectation} {t t' : Token} {s s' : Stream}
    (h : t.word = t'.word) :
    Alike R (Stream.unexpected expected t s) (Stream.unexpected expected t' s') := by
  rw [Stream.unexpected, Stream.unexpected, Token.describe_congr h]
  exact alike_fail

theorem matches_expectEnd : Matches Eq Stream.expectEnd Stream.expectEnd := by
  refine matches_next.bind fun t t' hword => ?_
  rw [Token.isEnd_congr hword]
  split
  · exact .pure rfl
  · exact fun s s' _ => alike_unexpected hword

end Scan

/-! ### Single blanks between tokens -/

namespace Stream

variable {content read gap : List Char} {origin : Location} {s : Stream} {t : Token}
  {ts : List Token}

/-- The texts of some tokens, one behind the other, with a blank between any two of them. -/
def joined (ts : List Token) : String :=
  " ".intercalate (ts.map Token.text)

/-- Behind the first token there is a blank, or nothing. -/
theorem exists_joined_cons (t : Token) (ts : List Token) : ∃ gap,
    (joined (t :: ts)).toList = t.text.toList ++ (gap ++ (joined ts).toList) ∧
      (∀ c ∈ gap, Lexeme.isBlank c = true) ∧
      ∀ c ∈ (gap ++ (joined ts).toList).head?, Lexeme.isBlank c = true := by
  cases ts with
  | nil => exact ⟨[], by simp [joined], by simp, by simp [joined]⟩
  | cons u us =>
    refine ⟨[' '], ?_, List.forall_mem_singleton.2 rfl, fun c hc => ?_⟩
    · simp only [joined, String.toList_intercalate, List.map_cons, List.intercalate_cons_cons,
        List.append_assoc]
      rfl
    · cases hc
      rfl

/-- What ends before a blank, or with the text, is the longest lexeme there. -/
theorem isLongest_of_formed {kind : Token.Kind} {text rest : List Char}
    (h : Lexeme.Formed kind text) (hrest : ∀ c ∈ rest.head?, Lexeme.isBlank c = true) :
    Lexeme.IsLongest kind text (text ++ rest) := by
  have hwhole : Lexeme.IsLongest kind text (text ++ [] ++ []) := by
    rw [List.append_nil, List.append_nil]
    exact Lexeme.isLongest_of_front? h.front?_eq
  simpa only [List.append_nil] using hwhole.before_blank hrest

/-- Where the text of some tokens stands behind some blanks, their words are delivered. -/
theorem HasRead.exists_delivers_joined
    (hts : ∀ t ∈ ts, Lexeme.Formed t.kind t.text.toList) (hs : s.HasRead content origin read)
    (hgap : ∀ c ∈ gap, Lexeme.isBlank c = true)
    (hcontent : content = read ++ gap ++ (joined ts).toList) :
    ∃ us, s.Delivers us none ∧ us.map Token.word = ts.map Token.word := by
  induction ts generalizing s read gap with
  | nil =>
    have hadvances : s.Advances content origin (read ++ gap) [] s.next :=
      hs.advances hcontent hgap (by simp)
    obtain ⟨t, s', hnext, hend⟩ := hadvances.rest_eq_nil_iff.1 rfl
    exact ⟨[], .finish hnext hend (next_of_isEnd hs.pending_eq_nil hnext hend).1, rfl⟩
  | cons t ts ih =>
    obtain ⟨ht, hts⟩ := List.forall_mem_cons.1 hts
    obtain ⟨gap', hjoined, hgap', hhead⟩ := exists_joined_cons t ts
    rw [hjoined] at hcontent
    obtain ⟨u, s', hnext, hend, -, hkind, htext, hs'⟩ :=
      hs.exists_next hcontent hgap (isLongest_of_formed ht hhead)
    have hcontent' : content = read ++ gap ++ t.text.toList ++ gap' ++ (joined ts).toList := by
      simpa only [List.append_assoc] using hcontent
    obtain ⟨us, hus, hwords⟩ := ih hts hs' hgap' hcontent'
    have hword : u.word = t.word := Prod.ext hkind htext
    exact ⟨u :: us, .cons hnext hend hus, by rw [List.map_cons, List.map_cons, hword, hwords]⟩

/-- Tokens that are written with single blanks between them are read back as they were. -/
theorem Delivers.exists_delivers_joined (h : s.Delivers ts none) (hs : s.pending = [])
    (origin : Location) : ∃ us, (ofContent (joined ts) origin).Delivers us none ∧
      us.map Token.word = ts.map Token.word := by
  rw [← List.append_nil ts] at h
  obtain ⟨s', htakes, -⟩ := h.exists_takes
  exact (hasRead_ofContent (joined ts) origin).exists_delivers_joined (htakes.formed hs)
    (List.forall_mem_nil _) rfl

end Stream

end TextTemplate
