import TextTemplate.Proofs.Lexeme.Boundary
import TextTemplate.Proofs.Stream.Pushback

/-!
# The lines of tokens

A token bears the text of a line. While a text is read, the line moves on with the line feeds in the
blanks between tokens, and with no others. Strings can hold line feeds too, behind backslashes. So
the line of a token begins behind the last line feed *between* tokens, and every line feed from
there up to the token stands in a string. If there is none, it is the physical line; each of them
puts the token one physical line further, which its line does not show.

## Main definitions

* `lineAt`: the physical line of a point of a text.
* `Stream.LinedUp`: a line that begins behind the last line feed between some tokens.

## Main results

* `Stream.LinedUp.exists_behind_gap`, `Stream.LinedUp.behind_token`: how the line goes on over
  blanks and over a token.
* `Stream.linedUp_of_next`: the line of every token of a text.
-/

namespace TextTemplate

/-- The physical line on which a point of a text stands, from the characters before the point and
those behind it. -/
def lineAt (before here : List Char) : String :=
  String.ofList (lastLine before ++ firstLine here)

namespace Stream

variable {content read head mid gap here rest : List Char} {origin : Location} {line : String}
  {s s' s₁ : Stream} {t : Token} {ts us vs : List Token}

/-- A line that begins behind a front part of a text, behind which some of the tokens stand. The
front part is empty or ends with a line feed that stands behind the other tokens. The line feeds
between the front part and the point that was reached are those inside the tokens there. -/
structure LinedUp (content : List Char) (us vs : List Token) (head mid here : List Char)
    (line : String) : Prop where
  content_eq : content = head ++ mid ++ here
  line_eq : line = String.ofList (firstLine (mid ++ here))
  begins : head = [] ∨ ∃ front, head = front ++ ['\n']
  before : ∀ u ∈ us, u.stop < utf8Length head
  behind : ∀ v ∈ vs, utf8Length head ≤ v.start ∧ v.stop ≤ utf8Length (head ++ mid)
  count_eq : mid.count '\n' = (vs.flatMap fun v => v.text.toList).count '\n'

/-- Before all tokens the line is the first one of the text. -/
theorem linedUp_ofContent (content : String) (origin : Location) :
    LinedUp content.toList [] [] [] [] (ofContent content origin).rest
      (ofContent content origin).line where
  content_eq := rfl
  line_eq := rfl
  begins := Or.inl rfl
  before := List.forall_mem_nil _
  behind := List.forall_mem_nil _
  count_eq := rfl

/-- No token that was read ends behind the point that was reached. -/
theorem LinedUp.stop_le (h : LinedUp content us vs head mid here line) :
    ∀ v ∈ us ++ vs, v.stop ≤ utf8Length (head ++ mid) := by
  refine List.forall_mem_append.2 ⟨fun u hu => ?_, fun v hv => (h.behind v hv).2⟩
  rw [utf8Length_append]
  exact Nat.le_trans (Nat.le_of_lt (h.before u hu)) (Nat.le_add_right _ _)

/-- Over some blanks the line goes on, or another one begins behind the last line feed in them. -/
theorem LinedUp.exists_behind_gap (h : LinedUp content us vs head mid (gap ++ here) line) :
    ∃ us' vs' head' mid', us' ++ vs' = us ++ vs ∧ head' ++ mid' = head ++ mid ++ gap ∧
      LinedUp content us' vs' head' mid' here (lineAfter line gap here) := by
  by_cases hgap : '\n' ∈ gap
  · obtain ⟨front, hfront⟩ := exists_eq_append_lastLine hgap
    have hsplit : head ++ mid ++ front ++ ['\n'] ++ lastLine gap = head ++ mid ++ gap := by
      conv_rhs => rw [hfront]
      simp only [List.append_assoc]
    refine ⟨us ++ vs, [], head ++ mid ++ front ++ ['\n'], lastLine gap, List.append_nil _, hsplit,
      ?_, ?_, Or.inr ⟨_, rfl⟩, fun u hu => ?_, List.forall_mem_nil _, ?_⟩
    · rw [hsplit, List.append_assoc _ gap here]
      exact h.content_eq
    · rw [lineAfter, if_pos hgap, firstLine_append (newline_not_mem_lastLine gap)]
    · have hstop := h.stop_le u hu
      simp only [utf8Length_append, utf8Length_cons, utf8Length_nil] at hstop ⊢
      have hpos := Char.utf8Size_pos '\n'
      omega
    · exact List.count_eq_zero.2 (newline_not_mem_lastLine gap)
  · refine ⟨us, vs, head, mid ++ gap, rfl, (List.append_assoc _ _ _).symm, ?_, ?_, h.begins,
      h.before, fun v hv => ?_, ?_⟩
    · rw [h.content_eq]
      simp only [List.append_assoc]
    · rw [lineAfter, if_neg hgap, h.line_eq, List.append_assoc]
    · obtain ⟨hstart, hstop⟩ := h.behind v hv
      refine ⟨hstart, Nat.le_trans hstop ?_⟩
      rw [← List.append_assoc, utf8Length_append _ gap]
      exact Nat.le_add_right _ _
    · rw [List.count_append, List.count_eq_zero.2 hgap, Nat.add_zero, h.count_eq]

/-- Over a token the line goes on, whatever the token holds. -/
theorem LinedUp.behind_token (h : LinedUp content us vs head mid here line)
    (ht : t.StandsIn content (head ++ mid) here) (hhere : here = t.text.toList ++ rest) :
    LinedUp content us (vs ++ [t]) head (mid ++ t.text.toList) rest line where
  content_eq := by
    rw [h.content_eq, hhere]
    simp only [List.append_assoc]
  line_eq := by rw [h.line_eq, hhere, List.append_assoc]
  begins := h.begins
  before := h.before
  behind := by
    refine List.forall_mem_append.2 ⟨fun v hv => ?_, List.forall_mem_singleton.2 ⟨?_, ?_⟩⟩
    · obtain ⟨hstart, hstop⟩ := h.behind v hv
      refine ⟨hstart, Nat.le_trans hstop ?_⟩
      rw [← List.append_assoc, utf8Length_append _ t.text.toList]
      exact Nat.le_add_right _ _
    · rw [ht.start_eq, utf8Length_append]
      exact Nat.le_add_right _ _
    · rw [ht.stop_eq, List.append_assoc]
  count_eq := by
    rw [List.count_append, h.count_eq, List.flatMap_append, List.count_append,
      List.flatMap_singleton]

/-- If no line feed stands in the tokens behind the beginning of the line, it is the physical line.
-/
theorem LinedUp.eq_lineAt (h : LinedUp content us vs head mid here line)
    (hvs : ∀ v ∈ vs, '\n' ∉ v.text.toList) : line = lineAt (head ++ mid) here := by
  have hmid : '\n' ∉ mid := by
    rw [← List.count_eq_zero, h.count_eq, List.count_eq_zero, List.mem_flatMap]
    rintro ⟨v, hv, hmem⟩
    exact hvs v hv hmem
  have hhead : lastLine head = [] := by
    rcases h.begins with rfl | ⟨front, rfl⟩
    · rfl
    · exact lastLine_concat_newline
  rw [h.line_eq, firstLine_append hmid, lineAt, lastLine_append hmid, hhead, List.nil_append]

/-! ### Along a text -/

/-- While tokens are taken, the line of the stream is one that begins behind the last line feed
between them. -/
theorem exists_linedUp_of_takes (h : s.Takes ts s') (hs : s.HasRead content origin (head ++ mid))
    (hline : LinedUp content us vs head mid s.rest s.line) :
    ∃ us' vs' head' mid', us' ++ vs' = us ++ vs ++ ts ∧
      s'.HasRead content origin (head' ++ mid') ∧
      LinedUp content us' vs' head' mid' s'.rest s'.line := by
  induction h generalizing us vs head mid with
  | nil => exact ⟨us, vs, head, mid, (List.append_nil _).symm, hs, hline⟩
  | @cons s s₁ s' t ts hnext hend _ ih =>
    obtain ⟨gap, rest, hsplit, hgap, hhead, hadvances⟩ := exists_advances hs
    obtain ⟨hline₁, hline₂⟩ := line_of_next hs hnext hsplit hgap hhead
    have hrest : s.rest = gap ++ rest := hs.rest_eq (hsplit.trans (List.append_assoc _ gap rest))
    rw [hrest] at hline
    obtain ⟨us', vs', head', mid', htokens, hread, hline'⟩ := hline.exists_behind_gap
    rw [hnext] at hadvances
    cases hadvances with
    | finish _ ht =>
      rw [ht] at hend
      cases hend
    | token _ ht hs₁ =>
      have hrest₁ : rest = t.text.toList ++ s₁.rest := by
        have heq := hs₁.read_append_rest
        rw [hsplit, List.append_assoc _ t.text.toList] at heq
        exact (List.append_cancel_left heq).symm
      rw [← hread] at ht hs₁
      rw [List.append_assoc] at hs₁
      have hlined := hline'.behind_token ht hrest₁
      rw [← hline₂, ← hline₁] at hlined
      obtain ⟨us'', vs'', head'', mid'', htokens', hs', hlined'⟩ := ih hs₁ hlined
      refine ⟨us'', vs'', head'', mid'', ?_, hs', hlined'⟩
      rw [htokens', ← List.append_assoc us', htokens]
      simp only [List.append_assoc, List.singleton_append]

/-- Only strings hold line feeds. -/
theorem newline_not_mem_of_formed (ht : Lexeme.Formed t.kind t.text.toList)
    (hstring : t.kind = .string → '\n' ∉ t.text.toList) : '\n' ∉ t.text.toList := by
  by_cases hkind : t.kind = .string
  · exact hstring hkind
  · intro hmem
    have hblank := ht.isBlank_eq_false hkind '\n' hmem
    simp [Lexeme.isBlank] at hblank

/-- The line of every token of a text, the end marker among them, begins behind the last line feed
between the tokens before it, or with the text. The line feeds from there up to the token stand in
strings; if no string there holds one, the line is the physical line of the token. -/
theorem linedUp_of_next (content : String) (origin : Location) :
    ∀ ts s' t s₁, (ofContent content origin).Takes ts s' → s'.next = .ok t s₁ →
      ∃ us vs head mid here, us ++ vs = ts ∧ t.start = utf8Length (head ++ mid) ∧
        LinedUp content.toList us vs head mid here t.line ∧
        ((∀ v ∈ vs, v.kind = .string → '\n' ∉ v.text.toList) →
          t.line = lineAt (head ++ mid) here) := by
  intro ts s' t s₁ htakes hnext
  obtain ⟨us, vs, head, mid, htokens, hs', hline⟩ :=
    exists_linedUp_of_takes htakes (hasRead_ofContent content origin)
      (linedUp_ofContent content origin)
  obtain ⟨gap, here, hsplit, hgap, hhead, hadvances⟩ := exists_advances hs'
  obtain ⟨-, hline'⟩ := line_of_next hs' hnext hsplit hgap hhead
  have hrest : s'.rest = gap ++ here := hs'.rest_eq (hsplit.trans (List.append_assoc _ gap here))
  rw [hrest] at hline
  obtain ⟨us', vs', head', mid', htokens', hread, hlined⟩ := hline.exists_behind_gap
  rw [← hline'] at hlined
  rw [hnext] at hadvances
  have hstart : t.start = utf8Length (head' ++ mid') := hread ▸ hadvances.start_eq hsplit
  have hts : us' ++ vs' = ts := htokens'.trans htokens
  have hformed := htakes.formed rfl
  rw [← hts] at hformed
  exact ⟨us', vs', head', mid', here, hts, hstart, hlined, fun hstrings =>
    hlined.eq_lineAt fun v hv =>
      newline_not_mem_of_formed (hformed v (List.mem_append_right us' hv)) (hstrings v hv)⟩

/-- A line feed between tokens moves the line on. -/
theorem linedUp_of_next_second_line :
    ∃ ts s' t s₁, (ofContent "a\n'b' c" ⟨1, 1⟩).Takes ts s' ∧ s'.next = .ok t s₁ ∧
      t.text = "c" ∧ t.line = "'b' c" ∧
      ∃ us vs head mid here, us ++ vs = ts ∧ t.start = utf8Length (head ++ mid) ∧
        LinedUp "a\n'b' c".toList us vs head mid here t.line := by
  have htakes : (ofContent "a\n'b' c" ⟨1, 1⟩).Takes _ _ := .cons rfl rfl (.cons rfl rfl .nil)
  obtain ⟨us, vs, head, mid, here, hts, hstart, hlined, -⟩ :=
    linedUp_of_next "a\n'b' c" ⟨1, 1⟩ _ _ _ _ htakes rfl
  exact ⟨_, _, _, _, htakes, rfl, rfl, rfl, us, vs, head, mid, here, hts, hstart, hlined⟩

/-- A line feed in a string does not: the token behind the string stands on the second line, but it
bears the first one. -/
theorem line_ne_lineAt_behind_string :
    ∃ ts s' t s₁ before here, (ofContent "\"\\\n\" x" ⟨1, 1⟩).Takes ts s' ∧
      s'.next = .ok t s₁ ∧ "\"\\\n\" x".toList = before ++ here ∧ t.start = utf8Length before ∧
      t.line = "\"\\" ∧ lineAt before here = "\" x" ∧ t.line ≠ lineAt before here := by
  have htakes : (ofContent "\"\\\n\" x" ⟨1, 1⟩).Takes _ _ := .cons rfl rfl .nil
  exact ⟨_, _, _, _, "\"\\\n\" ".toList, "x".toList, htakes, rfl, rfl, rfl, rfl, rfl, by decide⟩

end Stream

end TextTemplate
