import TextTemplate.Proofs.Lexeme.Longest
import TextTemplate.Proofs.Stream.Tokens

/-!
# Tokens tile their text

The tokens of a text stand in it one behind the other, with nothing but blanks before and between
them. Each is cut out of the text at its offsets and is the longest lexeme there. This goes on up to
the end of the text, or up to the first place behind some blanks where no lexeme stands; it is that
place that is reported.

A stream knows the part of the text that it has read. One call moves on over some blanks and over
one token behind them, or it finds that nothing is left or that there is no token; all the rest is
an induction on the calls.

## Main definitions

* `Token.StandsIn`: a token is cut out of a text at its offsets.
* `Token.IsSpelled`: the text of a token is one that its kind may have.
* `Stream.Tiles`: tokens stand in a text one behind the other.
* `Stream.HasRead`: the part of its text that a stream has read.
* `Stream.Advances`: what one call does.

## Main results

* `Stream.exists_advances`: what one call does, from every state.
* `Stream.Takes.exists_tiles`: the tokens that are taken tile the text.
* `Stream.tiles_ofContent`: every text is tiled up to its end or up to the first fault.
-/

namespace TextTemplate

namespace Token

variable {t : Token} {content before here : List Char}

/-- A token is cut out of a text between its offsets, behind a part of the text and from the front
of what stands there, of which it is the longest lexeme. -/
structure StandsIn (t : Token) (content before here : List Char) : Prop where
  content_eq : content = before ++ here
  start_eq : t.start = utf8Length before
  stop_eq : t.stop = utf8Length (before ++ t.text.toList)
  isLongest : Lexeme.IsLongest t.kind t.text.toList here

/-- The text of a token is one that its kind may have: it is not empty, the operator that is known
from the text of an operator is that operator, and a string stands between two equal quotes, which
can be taken off. -/
structure IsSpelled (t : Token) : Prop where
  text_ne_empty : t.text ≠ ""
  operator : ∀ op, t.kind = .operator op →
    t.text ∈ Operator.alternatives ∧ Operator.ofText? t.text = some op ∧ op.text = t.text
  string : t.kind = .string → ∃ quote, Lexeme.isQuote quote = true ∧
    t.text.toList = quote :: (Expr.unquoted t.text.toList ++ [quote])

theorem StandsIn.start_le_stop (h : t.StandsIn content before here) : t.start ≤ t.stop := by
  rw [h.start_eq, h.stop_eq, utf8Length_append]
  exact Nat.le_add_right _ _

theorem StandsIn.here_ne_nil (h : t.StandsIn content before here) : here ≠ [] :=
  h.isLongest.ne_nil

/-- A token is known from its place and its line. -/
theorem StandsIn.eq {t' : Token} (h : t.StandsIn content before here)
    (h' : t'.StandsIn content before here) (hline : t.line = t'.line) : t = t' := by
  obtain ⟨hkind, htext⟩ := h.isLongest.unique h'.isLongest
  have hstart := h.start_eq.trans h'.start_eq.symm
  have hstop := h.stop_eq
  rw [htext, ← h'.stop_eq] at hstop
  obtain ⟨kind, text, start, stop, line⟩ := t
  obtain ⟨kind', text', start', stop', line'⟩ := t'
  obtain rfl : text = text' := String.toList_inj.1 htext
  cases hkind
  cases hstart
  cases hstop
  cases hline
  rfl

theorem isSpelled_of_formed (h : Lexeme.Formed t.kind t.text.toList) : t.IsSpelled := by
  refine ⟨?_, fun op hop => ?_, fun hstring => ?_⟩
  · exact fun hempty => h.ne_nil (by simp [hempty])
  · rw [hop] at h
    generalize htext : t.text.toList = text at h
    cases h
    have hop : Operator.ofText? t.text = some op := by
      rw [Operator.ofText?_eq_some_iff, Operator.text, ← htext, String.ofList_toList]
    exact ⟨Operator.mem_alternatives_iff.2 ⟨op, hop⟩, hop, Operator.ofText?_eq_some_iff.1 hop⟩
  · rw [hstring, Lexeme.formed_string_iff] at h
    obtain ⟨quote, inner, hquote, -, htext⟩ := h
    exact ⟨quote, hquote, by simp [Expr.unquoted, htext]⟩

end Token

namespace Stream

variable {content read last before : List Char} {origin : Location} {s s' : Stream} {t : Token}
  {ts : List Token}

/-! ### Tokens one behind the other -/

/-- Some tokens stand in a text one behind the other, with nothing but blanks before and between
them, from the end of one front part of the text up to the end of another one. -/
inductive Tiles (content : List Char) : List Char → List Token → List Char → Prop where
  | nil {read : List Char} : Tiles content read [] read
  | cons {read gap here last : List Char} {t : Token} {ts : List Token}
      (hgap : ∀ c ∈ gap, Lexeme.isBlank c = true) (ht : t.StandsIn content (read ++ gap) here)
      (hrest : Tiles content (read ++ gap ++ t.text.toList) ts last) :
      Tiles content read (t :: ts) last

theorem Tiles.isSpelled (h : Tiles content read ts last) : ∀ t ∈ ts, t.IsSpelled := by
  induction h with
  | nil => simp
  | cons _ ht _ ih =>
    exact List.forall_mem_cons.2 ⟨Token.isSpelled_of_formed ht.isLongest.formed, ih⟩

/-- No token begins before the part of the text from which the tokens start. -/
theorem Tiles.utf8Length_le_start (h : Tiles content read ts last) :
    ∀ t ∈ ts, utf8Length read ≤ t.start := by
  induction h with
  | nil => simp
  | @cons read gap _ _ t _ _ ht _ ih =>
    have hstart : utf8Length read ≤ t.start := by
      rw [ht.start_eq, utf8Length_append]
      exact Nat.le_add_right _ _
    refine List.forall_mem_cons.2 ⟨hstart, fun u hu => ?_⟩
    calc utf8Length read ≤ t.start := hstart
      _ ≤ t.stop := ht.start_le_stop
      _ = utf8Length (read ++ gap ++ t.text.toList) := ht.stop_eq
      _ ≤ u.start := ih u hu

/-- No token begins before the end of another one that comes first. -/
theorem Tiles.pairwise (h : Tiles content read ts last) :
    ts.Pairwise fun t u => t.stop ≤ u.start := by
  induction h with
  | nil => exact .nil
  | cons _ ht hrest ih =>
    exact List.pairwise_cons.2 ⟨fun u hu => ht.stop_eq ▸ hrest.utf8Length_le_start u hu, ih⟩

/-! ### One call -/

/-- A stream has read a part of its text, and nothing is pushed back. -/
structure HasRead (s : Stream) (content : List Char) (origin : Location) (read : List Char) :
    Prop where
  content_eq : s.content = content
  origin_eq : s.origin = origin
  read_append_rest : read ++ s.rest = content
  offset_eq : s.offset = utf8Length read
  rest_eq_nil : s.finished = true → s.rest = []
  pending_eq_nil : s.pending = []

theorem hasRead_ofContent (content : String) (origin : Location) :
    (ofContent content origin).HasRead content.toList origin [] :=
  ⟨rfl, rfl, rfl, rfl, (fun h => by cases h), rfl⟩

/-- What is left to read is what stands behind the part that was read. -/
theorem HasRead.rest_eq {rest : List Char} (hs : s.HasRead content origin read)
    (hcontent : content = read ++ rest) : s.rest = rest :=
  List.append_cancel_left (hs.read_append_rest.trans hcontent)

/-- What a call gives where some part of a text is behind the stream and the blanks, and another
one, which does not begin with a blank, is still to come. -/
inductive Advances (s : Stream) (content : List Char) (origin : Location) (before : List Char) :
    List Char → EStateM.Result Error Stream Token → Prop where
  | finish {s' : Stream} {t : Token} (hs' : s'.HasRead content origin content)
      (ht : t = ⟨.endMarker, "", utf8Length content, utf8Length content, s'.line⟩) :
      Advances s content origin before [] (.ok t s')
  | token {s' : Stream} {t : Token} {here : List Char} (hend : t.isEnd = false)
      (ht : t.StandsIn content before here)
      (hs' : s'.HasRead content origin (before ++ t.text.toList)) :
      Advances s content origin before here (.ok t s')
  | fault {c : Char} {cs : List Char}
      (hnone : ∀ kind text, Lexeme.Formed kind text → ¬ text <+: c :: cs) :
      Advances s content origin before (c :: cs)
        (.error (.lexical (lexicalError c) (origin.advance before)) s)

/-- What a call does: it passes some blanks, and then it finds that nothing is left, or the token
that stands there, or that there is none. -/
theorem exists_advances (h : s.HasRead content origin read) :
    ∃ gap rest, content = read ++ gap ++ rest ∧ (∀ c ∈ gap, Lexeme.isBlank c = true) ∧
      (∀ c ∈ rest.head?, Lexeme.isBlank c = false) ∧
      s.Advances content origin (read ++ gap) rest s.next := by
  obtain ⟨rfl, rfl, hcontent, hoffset, hfinished, hpending⟩ := h
  have hsplit : s.content = read ++ s.gap ++ s.ahead := by
    rw [List.append_assoc, gap_append_ahead, hcontent]
  have hstart' : s.offset + utf8Length s.gap = utf8Length (read ++ s.gap) := by
    rw [hoffset, utf8Length_append]
  refine ⟨s.gap, s.ahead, hsplit, s.isBlank_of_mem_gap, s.isBlank_head_ahead, ?_⟩
  rw [next, hpending]
  have hscans := s.scans
  generalize s.scan = result at hscans
  cases hscans with
  | again hend =>
    have hrest := hfinished hend
    have hread : read = s.content := by rw [← hcontent, hrest, List.append_nil]
    rw [ahead, hrest, List.dropWhile_nil]
    exact .finish ⟨rfl, rfl, by rw [hrest, List.append_nil], by rw [hoffset, hread], hfinished,
      hpending⟩ rfl
  | finish _ hahead hs' =>
    subst hs'
    rw [hahead, List.append_nil] at hsplit
    rw [hahead]
    exact .finish ⟨rfl, rfl, List.append_nil _, hstart'.trans (congrArg _ hsplit.symm),
      fun _ => rfl, hpending⟩ rfl
  | @token l start line hunfinished hfront hstart _ =>
    have htext : (String.ofList l.text).toList = l.text := String.toList_ofList
    have hcut := (Lexeme.cut_of_front? hfront).text_append_rest
    rw [hstart, hstart', ← utf8Length_append]
    refine .token ?_ ⟨hsplit, rfl, ?_, ?_⟩ ⟨rfl, rfl, ?_, ?_, fun hend => ?_, hpending⟩
    · exact decide_eq_false (Lexeme.kind_ne_endMarker_of_front? hfront)
    · rw [htext]
    · rw [htext]
      exact Lexeme.isLongest_of_front? hfront
    · rw [htext, hsplit, ← hcut, List.append_assoc _ l.text]
    · rw [htext]
    · rw [hunfinished] at hend
      cases hend
  | fault hahead hfront =>
    have hlocation :
        s.locationOf (s.offset + utf8Length s.gap) = s.origin.advance (read ++ s.gap) := by
      rw [locationOf, hstart', hsplit, takeBytes_utf8Length]
    rw [hlocation]
    rw [hahead] at hfront ⊢
    exact .fault (Lexeme.front?_eq_none_iff.1 hfront)

/-- There is one way only to split a text into blanks and a part that does not begin with one. -/
theorem takeWhile_isBlank_append {gap rest : List Char}
    (hgap : ∀ c ∈ gap, Lexeme.isBlank c = true)
    (hrest : ∀ c ∈ rest.head?, Lexeme.isBlank c = false) :
    (gap ++ rest).takeWhile Lexeme.isBlank = gap ∧
      (gap ++ rest).dropWhile Lexeme.isBlank = rest := by
  rw [List.takeWhile_append_of_pos hgap, List.dropWhile_append_of_pos hgap]
  cases rest with
  | nil => exact ⟨List.append_nil gap, rfl⟩
  | cons c cs =>
    have hc : ¬ Lexeme.isBlank c = true := by simp [hrest c rfl]
    rw [List.takeWhile_cons_of_neg hc, List.dropWhile_cons_of_neg hc, List.append_nil]
    exact ⟨rfl, rfl⟩

/-- What a call does where the blanks and what stands behind them are known. -/
theorem HasRead.advances {gap rest : List Char} (h : s.HasRead content origin read)
    (hcontent : content = read ++ gap ++ rest) (hgap : ∀ c ∈ gap, Lexeme.isBlank c = true)
    (hrest : ∀ c ∈ rest.head?, Lexeme.isBlank c = false) :
    s.Advances content origin (read ++ gap) rest s.next := by
  obtain ⟨gap', rest', hcontent', hgap', hrest', hadvances⟩ := exists_advances h
  have heq : gap ++ rest = gap' ++ rest' := by
    rw [hcontent, List.append_assoc, List.append_assoc] at hcontent'
    exact List.append_cancel_left hcontent'
  obtain ⟨htake, hdrop⟩ := takeWhile_isBlank_append hgap hrest
  obtain ⟨htake', hdrop'⟩ := takeWhile_isBlank_append hgap' hrest'
  rw [heq] at htake hdrop
  obtain rfl := htake.symm.trans htake'
  obtain rfl := hdrop.symm.trans hdrop'
  exact hadvances

/-- Where a lexeme stands behind some blanks, it is delivered. -/
theorem HasRead.exists_next {gap here : List Char} {kind : Token.Kind} {text : String}
    (h : s.HasRead content origin read) (hcontent : content = read ++ gap ++ here)
    (hgap : ∀ c ∈ gap, Lexeme.isBlank c = true) (hhere : Lexeme.IsLongest kind text.toList here) :
    ∃ t s', s.next = .ok t s' ∧ t.isEnd = false ∧ t.StandsIn content (read ++ gap) here ∧
      t.kind = kind ∧ t.text = text ∧
      s'.HasRead content origin (read ++ gap ++ text.toList) := by
  have hadvances := h.advances hcontent hgap hhere.isBlank_head
  generalize s.next = result at hadvances
  cases hadvances with
  | finish _ _ => exact absurd rfl hhere.ne_nil
  | fault hnone => exact absurd hhere.front (hnone _ _ hhere.formed)
  | @token s' t _ hend ht hs' =>
    obtain ⟨hkind, htext⟩ := ht.isLongest.unique hhere
    rw [htext] at hs'
    exact ⟨t, s', rfl, hend, ht, hkind, String.toList_inj.1 htext, hs'⟩

namespace Advances

variable {rest : List Char} {result : EStateM.Result Error Stream Token}

theorem rest_eq_nil_iff (h : s.Advances content origin before rest result) :
    rest = [] ↔ ∃ t s₁, result = .ok t s₁ ∧ t.isEnd = true := by
  cases h with
  | finish _ ht => simp [ht, Token.isEnd]
  | token hend ht _ => simp [hend, ht.here_ne_nil]
  | fault _ => simp

/-- A call fails exactly if something is left, but no lexeme. -/
theorem exists_error_iff (h : s.Advances content origin before rest result) :
    (∃ err s₁, result = .error err s₁) ↔
      rest ≠ [] ∧ ∀ kind text, Lexeme.Formed kind text → ¬ text <+: rest := by
  cases h with
  | finish _ _ => simp
  | @token _ t _ _ ht _ =>
    simp only [reduceCtorEq, exists_false, false_iff]
    rintro ⟨-, hnone⟩
    exact hnone t.kind t.text.toList ht.isLongest.formed ht.isLongest.front
  | fault hnone => simpa using hnone

theorem of_error {err : Error}
    (h : s.Advances content origin before rest (.error err s')) : s' = s ∧ ∃ c ∈ rest.head?,
      err = .lexical (if Lexeme.isQuote c then .unterminatedString else .unexpectedChar c)
        (origin.advance before) := by
  cases h with
  | fault _ => exact ⟨rfl, _, rfl, rfl⟩

theorem start_eq (h : s.Advances content origin before rest (.ok t s'))
    (hcontent : content = before ++ rest) : t.start = utf8Length before := by
  cases h with
  | finish _ ht => rw [ht, hcontent, List.append_nil]
  | token _ ht _ => exact ht.start_eq

theorem standsIn (h : s.Advances content origin before rest (.ok t s')) (hend : t.isEnd = false) :
    t.StandsIn content before rest := by
  cases h with
  | finish _ ht =>
    rw [ht] at hend
    cases hend
  | token _ ht _ => exact ht

end Advances

/-! ### All calls -/

/-- The tokens that are taken tile the text. -/
theorem Takes.exists_tiles (h : Takes s ts s') (hs : s.HasRead content origin read) :
    ∃ last, Tiles content read ts last ∧ s'.HasRead content origin last := by
  induction h generalizing read with
  | nil => exact ⟨read, .nil, hs⟩
  | cons hnext hend _ ih =>
    -- the part that has been read grows by the blanks and the token, and the rest starts there
    obtain ⟨gap, rest, -, hgap, -, hadvances⟩ := exists_advances hs
    rw [hnext] at hadvances
    cases hadvances with
    | finish _ ht =>
      rw [ht] at hend
      cases hend
    | token _ ht hs₁ =>
      obtain ⟨last, htiles, hs'⟩ := ih hs₁
      exact ⟨last, .cons hgap ht htiles, hs'⟩

/-- Every token that is taken makes the stream smaller. -/
theorem Takes.length_add_size_le (h : Takes s ts s') : ts.length + s'.size ≤ s.size := by
  induction h with
  | nil => simp
  | cons hnext hend _ ih =>
    have hsize := size_of_next hnext
    simp only [hend, Bool.false_eq_true, if_false] at hsize
    simp only [List.length_cons]
    omega

/-- The calls come to the end marker or to an error. -/
theorem exists_takes_ofContent (content : String) (origin : Location) :
    ∃ ts s', (ofContent content origin).Takes ts s' ∧
      ((∃ t s₁, s'.next = .ok t s₁ ∧ t.isEnd = true) ∨ ∃ err s₁, s'.next = .error err s₁) := by
  obtain ⟨ts, fault, hdelivers⟩ := exists_delivers (s := ofContent content origin) rfl
  rw [← List.append_nil ts] at hdelivers
  obtain ⟨s', htakes, hs'⟩ := hdelivers.exists_takes
  refine ⟨ts, s', htakes, ?_⟩
  rcases hs' with ⟨hnext, hend, -⟩ | hnext
  · exact Or.inl ⟨_, _, hnext, hend⟩
  · exact Or.inr ⟨_, _, hnext⟩

/-- Reading a text token by token comes to its end or to an error, after no more tokens than it has
characters. After any number of calls the tokens so far tile a front part of the text, and what the
next call does depends on what stands behind that part and some blanks: if nothing is left, it
delivers the end marker, and it fails exactly if something is there, but no lexeme. The error tells
an open string from other characters and is put at the place that was reached, and the stream stays
as it is. The operators are known from the texts that are tried as operators, and from no others. -/
theorem tiles_ofContent (content : String) (origin : Location) :
    (∃ ts s', (ofContent content origin).Takes ts s' ∧ ts.length ≤ content.toList.length ∧
      ((∃ t s₁, s'.next = .ok t s₁ ∧ t.isEnd = true) ∨ ∃ err s₁, s'.next = .error err s₁)) ∧
    (∀ text, text ∈ Operator.alternatives ↔ ∃ op, Operator.ofText? text = some op) ∧
    ∀ ts s', (ofContent content origin).Takes ts s' → ∃ read gap rest,
      content.toList = read ++ gap ++ rest ∧ (∀ c ∈ gap, Lexeme.isBlank c = true) ∧
      (∀ c ∈ rest.head?, Lexeme.isBlank c = false) ∧
      Tiles content.toList [] ts read ∧ (∀ t ∈ ts, t.IsSpelled) ∧
      ts.Pairwise (fun t u => t.stop ≤ u.start) ∧
      (rest = [] ↔ ∃ t s₁, s'.next = .ok t s₁ ∧ t.isEnd = true) ∧
      ((∃ err s₁, s'.next = .error err s₁) ↔
        rest ≠ [] ∧ ∀ kind text, Lexeme.Formed kind text → ¬ text <+: rest) ∧
      ∀ err s₁, s'.next = .error err s₁ → s₁ = s' ∧ ∃ c ∈ rest.head?,
        err = .lexical (if Lexeme.isQuote c then .unterminatedString else .unexpectedChar c)
          (origin.advance (read ++ gap)) := by
  refine ⟨?_, fun text => Operator.mem_alternatives_iff, fun ts s' htakes => ?_⟩
  · obtain ⟨ts, s', htakes, hnext⟩ := exists_takes_ofContent content origin
    have hlength := htakes.length_add_size_le
    have hsize : (ofContent content origin).size = content.toList.length := rfl
    exact ⟨ts, s', htakes, by omega, hnext⟩
  · obtain ⟨read, htiles, hs'⟩ := htakes.exists_tiles (hasRead_ofContent content origin)
    obtain ⟨gap, rest, hsplit, hgap, hhead, hadvances⟩ := exists_advances hs'
    refine ⟨read, gap, rest, hsplit, hgap, hhead, htiles, htiles.isSpelled, htiles.pairwise,
      hadvances.rest_eq_nil_iff, hadvances.exists_error_iff, fun err s₁ hnext => ?_⟩
    rw [hnext] at hadvances
    exact hadvances.of_error

/-- An operator is as long as it can be, and a string that goes beyond its line is open. -/
theorem tiles_ofContent_open_string :
    ∃ ts s', (ofContent "a **=3.b 'c\n'" ⟨1, 4⟩).Takes ts s' ∧
      ts.map Token.word = [(.name, "a"), (.operator .starStarEqual, "**="), (.number, "3."),
        (.name, "b")] ∧
      ts.Pairwise (fun t u => t.stop ≤ u.start) ∧
      s'.next = .error (.lexical .unterminatedString ⟨1, 13⟩) s' ∧
      ∃ read rest, "a **=3.b 'c\n'".toList = read ++ rest ∧
        ∀ kind text, Lexeme.Formed kind text → ¬ text <+: rest := by
  have htakes : (ofContent "a **=3.b 'c\n'" ⟨1, 4⟩).Takes _ _ :=
    .cons rfl rfl (.cons rfl rfl (.cons rfl rfl (.cons rfl rfl .nil)))
  obtain ⟨read, gap, rest, hsplit, -, -, -, -, hpairwise, -, herror, -⟩ :=
    (tiles_ofContent "a **=3.b 'c\n'" ⟨1, 4⟩).2.2 _ _ htakes
  exact ⟨_, _, htakes, rfl, hpairwise, rfl, read ++ gap, rest, hsplit, (herror.1 ⟨_, _, rfl⟩).2⟩

end Stream

end TextTemplate
