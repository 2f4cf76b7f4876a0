import TextTemplate.Proofs.Lexeme.Form
import TextTemplate.Proofs.Stream.Delivery

/-!
# The tokens of a stream

A stream *takes* some tokens if it delivers them one after the other. This says nothing about what
comes behind them, so a reader can be described by the tokens that it takes wherever it stops. The
list of all tokens of a stream ends with the end marker or just before the first place where no
token stands; it is finite because every token makes the stream smaller.

Tokens that are read from a text stand in the order of the text and do not overlap. Hence a token of
the list is known by its place, and no two tokens of the list are equal.

## Main definitions

* `Stream.Takes`: a stream delivers some tokens and comes to another stream.
* `Stream.tokens`: all tokens of a stream.
* `Stream.Measured`: the offset of a stream and what is left to read make up its text.
* `Stream.Scanned`: what reading a token from the text does.

## Main results

* `Stream.Takes.tokens_eq`, `Stream.exists_takes_of_tokens`: the tokens that are taken are the first
  ones of the list.
* `Stream.exists_delivers`: every text has its tokens, up to its end or up to a fault.
* `Stream.pairwise_start_tokens`: the tokens of a text stand one behind the other.
-/

namespace TextTemplate.Stream

variable {s s' s₁ : Stream} {t : Token} {ts us vs : List Token} {fault : Option Error}

/-! ### Taking tokens -/

/-- A stream delivers some tokens one after the other, none of which is the end marker, and comes to
another stream. -/
inductive Takes : Stream → List Token → Stream → Prop where
  | nil {s : Stream} : Takes s [] s
  | cons {s s₁ s' : Stream} {t : Token} {ts : List Token} (h : s.next = .ok t s₁)
      (ht : t.isEnd = false) (hrest : Takes s₁ ts s') : Takes s (t :: ts) s'

@[simp] theorem takes_nil_iff : Takes s [] s' ↔ s' = s := by
  constructor
  · rintro ⟨⟩
    rfl
  · rintro rfl
    exact .nil

theorem takes_cons_iff :
    Takes s (t :: ts) s' ↔ ∃ s₁, s.next = .ok t s₁ ∧ t.isEnd = false ∧ Takes s₁ ts s' := by
  constructor
  · rintro (_ | ⟨h, ht, hrest⟩)
    exact ⟨_, h, ht, hrest⟩
  · rintro ⟨s₁, h, ht, hrest⟩
    exact .cons h ht hrest

theorem takes_append_iff : Takes s (us ++ vs) s' ↔ ∃ s₁, Takes s us s₁ ∧ Takes s₁ vs s' := by
  induction us generalizing s with
  | nil => simp
  | cons u us ih =>
    rw [List.cons_append, takes_cons_iff]
    constructor
    · rintro ⟨s₁, h, hu, hrest⟩
      obtain ⟨s₂, hus, hvs⟩ := ih.1 hrest
      exact ⟨s₂, .cons h hu hus, hvs⟩
    · rintro ⟨s₂, hus, hvs⟩
      obtain ⟨s₁, h, hu, hrest⟩ := takes_cons_iff.1 hus
      exact ⟨s₁, h, hu, ih.2 ⟨s₂, hrest, hvs⟩⟩

/-- The first tokens that are delivered are taken, and the others are delivered behind them. -/
theorem Delivers.exists_takes (h : Delivers s (us ++ vs) fault) :
    ∃ s', Takes s us s' ∧ Delivers s' vs fault := by
  induction us generalizing s with
  | nil => exact ⟨s, .nil, h⟩
  | cons u us ih =>
    obtain ⟨s₁, hnext, hu, hs₁⟩ := delivers_cons_iff.1 h
    obtain ⟨s', htakes, hs'⟩ := ih hs₁
    exact ⟨s', .cons hnext hu htakes, hs'⟩

/-- The tokens that are taken are the first ones that are delivered. -/
theorem Takes.exists_delivers (h : Takes s us s') (hs : Delivers s ts fault) :
    ∃ vs, ts = us ++ vs ∧ Delivers s' vs fault := by
  induction h generalizing ts with
  | nil => exact ⟨ts, rfl, hs⟩
  | cons hnext hu _ ih =>
    obtain ⟨us, rfl, hs₁⟩ := hs.eq_cons hnext hu
    obtain ⟨vs, rfl, hs'⟩ := ih hs₁
    exact ⟨vs, rfl, hs'⟩

/-- What is delivered behind the tokens that are taken is delivered behind them from the start. -/
theorem Takes.delivers (h : Takes s us s') (hs' : Delivers s' vs fault) :
    Delivers s (us ++ vs) fault := by
  induction h with
  | nil => exact hs'
  | cons hnext ht _ ih => exact .cons hnext ht (ih hs')

/-! ### All tokens -/

/-- The tokens of a stream, up to the end marker, which is the last of them, or up to the first
place where no token stands. -/
def tokens (s : Stream) : List Token :=
  match _h : s.next with
  | .error _ _ => []
  | .ok t s' => if _ht : t.isEnd = true then [t] else t :: s'.tokens
termination_by s.size
decreasing_by exact size_lt_of_next _h (mt Token.isEnd_iff.2 _ht)

theorem tokens_of_error {err : Error} (h : s.next = .error err s') : s.tokens = [] := by
  rw [tokens]
  split
  · rfl
  · next h' =>
    rw [h] at h'
    cases h'

theorem tokens_of_isEnd (h : s.next = .ok t s') (ht : t.isEnd = true) : s.tokens = [t] := by
  rw [tokens]
  split
  · next h' =>
    rw [h] at h'
    cases h'
  · next h' =>
    rw [h] at h'
    cases h'
    rw [dif_pos ht]

theorem tokens_of_next (h : s.next = .ok t s') (ht : t.isEnd = false) :
    s.tokens = t :: s'.tokens := by
  rw [tokens]
  split
  · next h' =>
    rw [h] at h'
    cases h'
  · next h' =>
    rw [h] at h'
    cases h'
    rw [dif_neg (by simp [ht])]

theorem head?_tokens (h : s.next = .ok t s') : s.tokens.head? = some t := by
  cases ht : t.isEnd with
  | true => rw [tokens_of_isEnd h ht, List.head?_cons]
  | false => rw [tokens_of_next h ht, List.head?_cons]

/-- The tokens that are taken are the first ones. -/
theorem Takes.tokens_eq (h : Takes s us s') : s.tokens = us ++ s'.tokens := by
  induction h with
  | nil => rfl
  | cons hnext ht _ ih => rw [tokens_of_next hnext ht, ih, List.cons_append]

/-- All tokens before a given one are taken, and it is delivered behind them. -/
theorem exists_takes_of_tokens {us vs : List Token} (h : s.tokens = us ++ t :: vs) :
    ∃ s₁ s₂, Takes s us s₁ ∧ s₁.next = .ok t s₂ := by
  induction us generalizing s with
  | nil =>
    cases hnext : s.next with
    | error err s' =>
      rw [tokens_of_error hnext] at h
      cases h
    | ok u s' =>
      have hhead := head?_tokens hnext
      rw [h] at hhead
      cases hhead
      exact ⟨s, s', .nil, hnext⟩
  | cons u us ih =>
    cases hnext : s.next with
    | error err s' =>
      rw [tokens_of_error hnext] at h
      cases h
    | ok u' s' =>
      cases hend : u'.isEnd with
      | true =>
        rw [tokens_of_isEnd hnext hend] at h
        simp at h
      | false =>
        rw [tokens_of_next hnext hend, List.cons_append] at h
        obtain ⟨rfl, htokens⟩ := List.cons.inj h
        obtain ⟨s₁, s₂, htakes, hnext₁⟩ := ih htokens
        exact ⟨s₁, s₂, .cons hnext hend htakes, hnext₁⟩

/-- The first token is the next one, and the others are those behind it. -/
theorem exists_next_of_tokens (h : s.tokens = t :: ts) :
    ∃ s', s.next = .ok t s' ∧ (t.isEnd = false → s'.tokens = ts) := by
  obtain ⟨s₁, s', htakes, hnext⟩ := exists_takes_of_tokens ((List.nil_append (t :: ts)).symm ▸ h)
  obtain rfl := takes_nil_iff.1 htakes
  refine ⟨s', hnext, fun ht => ?_⟩
  rw [tokens_of_next hnext ht] at h
  exact (List.cons.inj h).2

/-! ### Tokens that are read from a text -/

/-- The bytes that have been read and those that are left are the bytes of the text. -/
def Measured (s : Stream) : Prop :=
  s.offset + utf8Length s.rest = utf8Length s.content

theorem measured_ofContent (content : String) (origin : Location) :
    (ofContent content origin).Measured :=
  Nat.zero_add _

/-- What reading a token from the text does. -/
structure Scanned (s : Stream) (t : Token) (s' : Stream) : Prop where
  content_eq : s'.content = s.content
  origin_eq : s'.origin = s.origin
  pending_eq : s'.pending = s.pending
  measured : s.Measured → s'.Measured ∧ s.offset ≤ t.start
  /-- Behind the end marker nothing is read any more, and it stands there for ever. -/
  finished : t.isEnd = true → s'.finished = true ∧ t = s'.endMarker
  start_lt : t.isEnd = false → t.start < s'.offset
  front?_eq : t.isEnd = false →
    ∃ cs tail, Lexeme.front? cs = some ⟨t.kind, t.text.toList, tail⟩

theorem utf8Length_pos {cs : List Char} (h : cs ≠ []) : 0 < utf8Length cs := by
  obtain ⟨c, cs, rfl⟩ := List.exists_cons_of_ne_nil h
  rw [utf8Length_cons]
  exact Nat.add_pos_left c.utf8Size_pos _

theorem scanned_of_scan (h : s.scan = .ok t s') : Scanned s t s' := by
  have hlength : utf8Length s.gap + utf8Length s.ahead = utf8Length s.rest := by
    rw [← utf8Length_append, gap_append_ahead]
  have hscans := s.scans
  rw [h] at hscans
  cases hscans with
  | again hfinished =>
    exact ⟨rfl, rfl, rfl, fun hs => ⟨hs, Nat.le.intro hs⟩, fun _ => ⟨hfinished, rfl⟩,
      (fun hend => by cases hend), (fun hend => by cases hend)⟩
  | finish _ hahead hs' =>
    subst hs'
    refine ⟨rfl, rfl, rfl, fun hs => ?_, fun _ => ⟨rfl, rfl⟩, (fun hend => by cases hend),
      (fun hend => by cases hend)⟩
    rw [hahead] at hlength
    rw [Measured, ← hlength, ← Nat.add_assoc] at hs
    refine ⟨hs, ?_⟩
    rw [endMarker, ← hs, Nat.add_assoc]
    exact Nat.le_add_right _ _
  | @token l start line _ hfront hstart _ =>
    subst hstart
    have hcut := Lexeme.cut_of_front? hfront
    have hpos := utf8Length_pos hcut.text_ne_nil
    refine ⟨rfl, rfl, rfl, fun hs => ⟨?_, Nat.le_add_right _ _⟩, fun hend => ?_, fun _ => ?_,
      fun _ => ⟨s.ahead, l.rest, ?_⟩⟩
    · rw [← hcut.text_append_rest, utf8Length_append] at hlength
      simp only [Measured] at hs ⊢
      omega
    · exact absurd (Token.isEnd_iff.1 hend) (Lexeme.kind_ne_endMarker_of_front? hfront)
    · exact Nat.lt_add_of_pos_right hpos
    · rw [String.toList_ofList]
      exact hfront

theorem scanned_of_next (hs : s.pending = []) (h : s.next = .ok t s') : Scanned s t s' := by
  rw [next, hs] at h
  exact scanned_of_scan h

/-- Reading on pushes nothing back. -/
theorem pending_of_next (hs : s.pending = []) (h : s.next = .ok t s') : s'.pending = [] :=
  (scanned_of_next hs h).pending_eq.trans hs

/-- Reading on changes neither the text nor where it stands. -/
theorem content_of_next (h : s.next = .ok t s') :
    s'.content = s.content ∧ s'.origin = s.origin := by
  unfold next at h
  split at h
  · cases h
    exact ⟨rfl, rfl⟩
  · have hscanned := scanned_of_scan h
    exact ⟨hscanned.content_eq, hscanned.origin_eq⟩

/-- Reading on does not move what has been read. -/
theorem locationOf_of_next (h : s.next = .ok t s') (offset : Nat) :
    s'.locationOf offset = s.locationOf offset := by
  obtain ⟨hcontent, horigin⟩ := content_of_next h
  rw [locationOf, locationOf, hcontent, horigin]

/-- The end marker is delivered again and again. -/
theorem next_of_isEnd (hs : s.pending = []) (h : s.next = .ok t s') (ht : t.isEnd = true) :
    s'.IsSpent ∧ s'.next = .ok t s' := by
  obtain ⟨hfinished, hmarker⟩ := (scanned_of_next hs h).finished ht
  have hspent : s'.IsSpent := ⟨hfinished, pending_of_next hs h⟩
  exact ⟨hspent, hspent.next_eq.trans (by rw [← hmarker])⟩

theorem Takes.pending_eq_nil (h : Takes s us s') (hs : s.pending = []) : s'.pending = [] := by
  induction h with
  | nil => exact hs
  | cons hnext _ _ ih => exact ih (pending_of_next hs hnext)

/-- The tokens that are taken have the form that their kind asks for. -/
theorem Takes.formed (h : Takes s us s') (hs : s.pending = []) :
    ∀ t ∈ us, Lexeme.Formed t.kind t.text.toList := by
  induction h with
  | nil => exact List.forall_mem_nil _
  | cons hnext hend _ ih =>
    obtain ⟨cs, tail, hfront⟩ := (scanned_of_next hs hnext).front?_eq hend
    exact List.forall_mem_cons.2
      ⟨Lexeme.formed_of_front? hfront, ih (pending_of_next hs hnext)⟩

/-- A text has its tokens, up to its end or up to a fault. -/
theorem exists_delivers (hs : s.pending = []) : ∃ ts fault, s.Delivers ts fault := by
  fun_induction tokens s with
  | case1 s err s' h => exact ⟨[], some err, .fault h⟩
  | case2 s t s' h ht => exact ⟨[], none, .finish h ht (next_of_isEnd hs h ht).1⟩
  | case3 s t s' h ht ih =>
    obtain ⟨ts, fault, hs'⟩ := ih (pending_of_next hs h)
    exact ⟨t :: ts, fault, .cons h (by simpa using ht) hs'⟩

/-- The tokens before the end marker are the ones that are delivered. -/
theorem delivers_iff_tokens (hs : s.pending = []) :
    s.Delivers ts none ↔ ∃ last, s.tokens = ts ++ [last] ∧ last.isEnd = true := by
  constructor
  · intro h
    rw [← List.append_nil ts] at h
    obtain ⟨s', htakes, hs'⟩ := h.exists_takes
    obtain ⟨last, s₂, hnext, hlast, -⟩ := delivers_nil_iff.1 hs'
    exact ⟨last, by rw [htakes.tokens_eq, tokens_of_isEnd hnext hlast], hlast⟩
  · rintro ⟨last, htokens, hlast⟩
    obtain ⟨s₁, s₂, htakes, hnext⟩ := exists_takes_of_tokens htokens
    have hspent := (next_of_isEnd (htakes.pending_eq_nil hs) hnext hlast).1
    clear htokens
    induction htakes with
    | nil => exact .finish hnext hlast hspent
    | cons h ht _ ih => exact .cons h ht (ih (pending_of_next hs h) hnext)

/-- No token of a text stands before the place up to which the text has been read. -/
theorem offset_le_of_mem_tokens (hs : s.pending = []) (hmeasured : s.Measured) :
    ∀ t ∈ s.tokens, s.offset ≤ t.start := by
  fun_induction tokens s with
  | case1 => simp
  | case2 s t s' h ht =>
    exact List.forall_mem_singleton.2 ((scanned_of_next hs h).measured hmeasured).2
  | case3 s t s' h ht ih =>
    have hscanned := scanned_of_next hs h
    obtain ⟨hmeasured', hle⟩ := hscanned.measured hmeasured
    refine List.forall_mem_cons.2 ⟨hle, fun u hu => ?_⟩
    calc s.offset ≤ t.start := hle
      _ ≤ s'.offset := Nat.le_of_lt (hscanned.start_lt (by simpa using ht))
      _ ≤ u.start := ih (pending_of_next hs h) hmeasured' u hu

/-- The tokens of a text stand one behind the other. -/
theorem pairwise_start_tokens (hs : s.pending = []) (hmeasured : s.Measured) :
    s.tokens.Pairwise fun t u => t.start < u.start := by
  fun_induction tokens s with
  | case1 => exact .nil
  | case2 => exact List.pairwise_singleton _ _
  | case3 s t s' h ht ih =>
    have hscanned := scanned_of_next hs h
    have hs' := pending_of_next hs h
    have hmeasured' := (hscanned.measured hmeasured).1
    refine List.pairwise_cons.2 ⟨fun u hu => ?_, ih hs' hmeasured'⟩
    calc t.start < s'.offset := hscanned.start_lt (by simpa using ht)
      _ ≤ u.start := offset_le_of_mem_tokens hs' hmeasured' u hu

/-- A token is not found at two places of the list. -/
theorem nodup_tokens (hs : s.pending = []) (hmeasured : s.Measured) : s.tokens.Nodup :=
  (pairwise_start_tokens hs hmeasured).imp fun h heq => absurd (heq ▸ h) (Nat.lt_irrefl _)

/-- What is read is spelled as its kind asks. -/
theorem front?_of_mem_tokens (hs : s.pending = []) {t : Token} (ht : t ∈ s.tokens)
    (hend : t.isEnd = false) :
    ∃ cs tail, Lexeme.front? cs = some ⟨t.kind, t.text.toList, tail⟩ := by
  obtain ⟨us, vs, htokens⟩ := List.append_of_mem ht
  obtain ⟨s₁, s₂, htakes, hnext⟩ := exists_takes_of_tokens htokens
  exact (scanned_of_next (htakes.pending_eq_nil hs) hnext).front?_eq hend

end TextTemplate.Stream
