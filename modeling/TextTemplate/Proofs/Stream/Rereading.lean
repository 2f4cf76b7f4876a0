import TextTemplate.Proofs.Lexeme.Boundary
import TextTemplate.Proofs.Stream.Spaced
import TextTemplate.Proofs.Stream.Tiling

/-!
# Reading a changed text

If the end of a text is replaced, the tokens before it are read again as they were, provided that
the new end begins with a blank or is empty: no lexeme reaches over that point. They stand at the
same offsets. Only their lines may be different, since the line of the last tokens may go on in the
part that was replaced.

## Main definitions

* `Token.placed`: a token without its line.

## Main results

* `Stream.Tiles.exists_takes`: the tokens before the part that is replaced are read again.
* `Stream.Tiles.exists_delivers`: words that are written there instead are read behind them.
-/

namespace TextTemplate

/-- The kind, the text and the place of a token, without its line. -/
def Token.placed (t : Token) : Word × Nat :=
  (t.word, t.start)

theorem Token.map_word_of_placed {ts us : List Token} (h : ts.map placed = us.map placed) :
    ts.map word = us.map word := by
  have hfst := congrArg (List.map Prod.fst) h
  rwa [List.map_map, List.map_map] at hfst

namespace Stream

variable {content content' read last rest rest' gap : List Char} {origin : Location} {s : Stream}
  {ts : List Token} {words : List Word}

/-- Reading on from a part of a text comes to a longer part. -/
theorem Tiles.exists_append (h : Tiles content read ts last) : ∃ mid, last = read ++ mid := by
  induction h with
  | nil => exact ⟨[], (List.append_nil _).symm⟩
  | @cons read gap _ _ t _ _ _ _ ih =>
    obtain ⟨mid, rfl⟩ := ih
    exact ⟨gap ++ (t.text.toList ++ mid), by simp⟩

/-- The tokens before the part of a text that is replaced are read again. -/
theorem Tiles.exists_takes (h : Tiles content read ts last) (hcontent : content = last ++ rest)
    (hcontent' : content' = last ++ rest') (hrest' : ∀ c ∈ rest'.head?, Lexeme.isBlank c = true)
    (hs : s.HasRead content' origin read) :
    ∃ us s', s.Takes us s' ∧ us.map Token.placed = ts.map Token.placed ∧
      s'.HasRead content' origin last := by
  induction h generalizing s with
  | nil => exact ⟨[], s, .nil, rfl, hs⟩
  | @cons read gap here last t ts hgap ht hrest ih =>
    obtain ⟨mid, rfl⟩ := hrest.exists_append
    have hhere : here = t.text.toList ++ mid ++ rest := by
      have heq := ht.content_eq.symm.trans hcontent
      simpa only [List.append_assoc, List.append_cancel_left_eq] using heq
    -- the text behind the token is another one, but no lexeme reaches over its front
    have hlongest : Lexeme.IsLongest t.kind t.text.toList (t.text.toList ++ mid ++ rest') :=
      (hhere ▸ ht.isLongest).before_blank hrest'
    have hsplit : content' = read ++ gap ++ (t.text.toList ++ mid ++ rest') := by
      simpa only [List.append_assoc] using hcontent'
    obtain ⟨t', s₁, hnext, hend, ht', hkind, htext, hs₁⟩ := hs.exists_next hsplit hgap hlongest
    obtain ⟨us, s', htakes, hplaced, hs'⟩ := ih hcontent hcontent' hs₁
    have hplaced' : t'.placed = t.placed := by
      rw [Token.placed, Token.placed, Token.word, Token.word, hkind, htext, ht'.start_eq,
        ht.start_eq]
    exact ⟨t' :: us, s', .cons hnext hend htakes, by rw [List.map_cons, List.map_cons, hplaced',
      hplaced], hs'⟩

/-- Words that are written behind the blanks in the place of what follows are read there. -/
theorem Tiles.exists_delivers (h : Tiles content read ts last) (hcontent : content = last ++ rest)
    (hgap : ∀ c ∈ gap, Lexeme.isBlank c = true)
    (hwords : ∀ w ∈ words, Lexeme.Spells w.1 w.2.toList)
    (hs : s.HasRead (last ++ gap ++ spaced words) origin read) :
    ∃ us, s.Delivers us none ∧ us.map Token.word = ts.map Token.word ++ words := by
  have hhead : ∀ c ∈ (gap ++ spaced words).head?, Lexeme.isBlank c = true := by
    obtain ⟨cs, hcs⟩ := exists_spaced_eq words
    cases gap with
    | nil =>
      rw [List.nil_append, hcs]
      intro c hc
      cases hc
      rfl
    | cons d gap =>
      intro c hc
      cases hc
      exact hgap d List.mem_cons_self
  obtain ⟨us, s', htakes, hplaced, hs'⟩ :=
    h.exists_takes hcontent (List.append_assoc last gap (spaced words)) hhead hs
  have hrest : s'.rest = gap ++ spaced words := by
    have heq := hs'.read_append_rest
    rw [List.append_assoc] at heq
    exact List.append_cancel_left heq
  have hfinished : s'.finished = false := by
    obtain ⟨cs, hcs⟩ := exists_spaced_eq words
    rw [Bool.eq_false_iff]
    intro hfinished
    rw [hs'.rest_eq_nil hfinished, hcs] at hrest
    simp at hrest
  obtain ⟨vs, hvs, hdelivers⟩ := delivers_spaced hwords hgap hrest hfinished hs'.pending_eq_nil
  exact ⟨us ++ vs, htakes.delivers hdelivers, by
    rw [List.map_append, Token.map_word_of_placed hplaced, hvs]⟩

end Stream

end TextTemplate
