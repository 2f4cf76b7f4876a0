import TextTemplate.Span

/-!
# The decomposition of a template

Cutting a template into spans is described without reference to the way in which it is done. A list
of spans *decomposes* a text if the spans, written one after the other, give the text back, every
marker ends at its first closing delimiter, and literal text is neither empty nor adjacent to other
literal text and holds no place at which a complete marker starts. Every text has exactly one
decomposition, and cutting finds it.

The lookahead for a closing delimiter reaches beyond the span at hand: an opening delimiter in
literal text is harmless only if its closing delimiter is missing in all that follows. The
conditions on literal text therefore speak of the rest of the template and not of the span alone.

## Main definitions

* `Marker.ClosesOnce`, `Marker.Begins`: a body without an early closing delimiter, and a text at the
  front of which a complete marker stands.
* `Span.written`: the text of a span with its delimiters.
* `Span.Decomposes`: the description of a decomposition.

## Main results

* `Marker.front?_eq_some_iff`, `Marker.isSome_front?_iff`: which marker is at the front of a text.
* `Span.decomposes_cutFrom`, `Span.cutFrom_eq_of_decomposes`: cutting gives a decomposition, and no
  other list of spans is one.
* `Span.eq_cut_iff`: the two in one statement.
* `Span.location_eq_behind`: the location of a span is counted in the text before it.
-/

namespace TextTemplate

namespace Marker

variable {m : Marker} {cs body after : List Char}

/-! ### Closing delimiters -/

/-- A body followed by its closing delimiter holds that delimiter nowhere before its end. -/
def ClosesOnce (m : Marker) (body : List Char) : Prop :=
  ∀ pre post, body ++ m.closer = pre ++ (m.closer ++ post) → post = []

/-- A complete marker starts a text: an opening delimiter whose closing delimiter stands somewhere
behind it. -/
def Begins (cs : List Char) : Prop :=
  ∃ (m : Marker) (rest : List Char), cs = m.opener ++ rest ∧ m.closer <:+: rest

theorem length_closer (m : Marker) : m.closer.length = 2 := rfl

theorem closesOnce_nil (m : Marker) : m.ClosesOnce [] := by
  intro pre post h
  have hlen := congrArg List.length h
  simp only [List.nil_append, List.length_append, length_closer] at hlen
  exact List.length_eq_zero_iff.1 (by omega)

theorem closesOnce_cons_iff {a : Char} :
    m.ClosesOnce (a :: body) ↔ ¬ m.closer <+: a :: (body ++ m.closer) ∧ m.ClosesOnce body := by
  refine ⟨fun h => ?_, ?_⟩
  · refine ⟨?_, fun pre post heq => h (a :: pre) post (by rw [List.cons_append, heq]; rfl)⟩
    rintro ⟨post, hpost⟩
    -- a closing delimiter at the very front would leave something behind it
    have hnil : post = [] := h [] post (by rw [List.nil_append, hpost]; rfl)
    have hlen := congrArg List.length hpost
    simp only [hnil, List.append_nil, List.length_cons, List.length_append, length_closer] at hlen
    omega
  · rintro ⟨hfront, hbody⟩ pre post heq
    cases pre with
    | nil => exact absurd ⟨post, heq.symm⟩ hfront
    | cons b pre => exact hbody pre post (List.cons.inj heq).2

instance ClosesOnce.decidable (m : Marker) : ∀ body, Decidable (m.ClosesOnce body)
  | [] => isTrue (closesOnce_nil m)
  | _ :: body =>
    have := decidable m body
    decidable_of_iff' _ closesOnce_cons_iff

/-- Whether a closing delimiter stands at the front of a body does not depend on what follows the
delimiter that ends the body. -/
theorem closer_prefix_cons_iff {a : Char} :
    m.closer <+: a :: (body ++ (m.closer ++ after)) ↔ m.closer <+: a :: (body ++ m.closer) := by
  have hassoc : a :: (body ++ (m.closer ++ after)) = (a :: (body ++ m.closer)) ++ after := by simp
  rw [hassoc]
  refine ⟨fun h => ?_, ?_⟩
  · refine List.prefix_of_prefix_length_le h (List.prefix_append _ _) ?_
    simp only [List.length_cons, List.length_append, length_closer]
    omega
  · exact fun h => h.trans (List.prefix_append _ _)

theorem splitAtCloser_closer_append (m : Marker) (cs : List Char) :
    m.splitAtCloser (m.closer ++ cs) = some ([], cs) := by
  simp [closer, splitAtCloser]

theorem splitAtCloser_cons {a : Char} (h : ¬ m.closer <+: a :: cs) :
    m.splitAtCloser (a :: cs) =
      (m.splitAtCloser cs).map fun (body, after) => (a :: body, after) := by
  cases cs with
  | nil => rfl
  | cons b cs =>
    have hab : ¬ (a = m.closingSign ∧ b = '}') := by
      rintro ⟨rfl, rfl⟩
      exact h ⟨cs, rfl⟩
    rw [splitAtCloser, if_neg hab]

/-- Cutting at the closing delimiter takes the first one. -/
theorem splitAtCloser_eq_some_iff :
    m.splitAtCloser cs = some (body, after) ↔
      cs = body ++ (m.closer ++ after) ∧ m.ClosesOnce body := by
  refine ⟨fun h => ?_, ?_⟩
  · refine ⟨eq_of_splitAtCloser h, ?_⟩
    induction cs generalizing body with
    | nil => simp [splitAtCloser] at h
    | cons a cs ih =>
      by_cases hfront : m.closer <+: a :: cs
      · obtain ⟨rest, hrest⟩ := hfront
        rw [← hrest, splitAtCloser_closer_append] at h
        obtain ⟨rfl, -⟩ := Prod.mk.inj (Option.some.inj h)
        exact closesOnce_nil m
      · rw [splitAtCloser_cons hfront] at h
        obtain ⟨⟨body', after'⟩, hcut, heq⟩ := Option.map_eq_some_iff.1 h
        obtain ⟨rfl, rfl⟩ := Prod.mk.inj heq
        rw [eq_of_splitAtCloser hcut, closer_prefix_cons_iff] at hfront
        exact closesOnce_cons_iff.2 ⟨hfront, ih hcut⟩
  · rintro ⟨rfl, h⟩
    induction body with
    | nil => exact splitAtCloser_closer_append m after
    | cons a body ih =>
      obtain ⟨hfront, hbody⟩ := closesOnce_cons_iff.1 h
      rw [List.cons_append, splitAtCloser_cons (mt closer_prefix_cons_iff.1 hfront), ih hbody]
      rfl

theorem isSome_splitAtCloser_iff : (m.splitAtCloser cs).isSome ↔ m.closer <:+: cs := by
  induction cs with
  | nil => simp [splitAtCloser, closer]
  | cons a cs ih =>
    rw [List.infix_cons_iff]
    by_cases hfront : m.closer <+: a :: cs
    · obtain ⟨rest, hrest⟩ := hfront
      simp [← hrest, splitAtCloser_closer_append]
    · rw [splitAtCloser_cons hfront, Option.isSome_map, ih]
      simp [hfront]

/-! ### Markers at the front of a text -/

theorem front?_opener_append (m : Marker) (cs : List Char) :
    front? (m.opener ++ cs) = (m.splitAtCloser cs).map fun (body, after) => (m, body, after) := by
  cases m <;> rfl

/-- The marker at the front of a text is the one whose body ends at the first closing delimiter. -/
theorem front?_eq_some_iff :
    front? cs = some (m, body, after) ↔
      cs = m.opener ++ (body ++ (m.closer ++ after)) ∧ m.ClosesOnce body := by
  refine ⟨fun h => ?_, ?_⟩
  · have hcs := eq_of_front? h
    rw [hcs, front?_opener_append] at h
    obtain ⟨⟨body', after'⟩, hcut, heq⟩ := Option.map_eq_some_iff.1 h
    simp only [Prod.mk.injEq, true_and] at heq
    obtain ⟨rfl, rfl⟩ := heq
    exact ⟨hcs, (splitAtCloser_eq_some_iff.1 hcut).2⟩
  · rintro ⟨rfl, h⟩
    rw [front?_opener_append, splitAtCloser_eq_some_iff.2 ⟨rfl, h⟩]
    rfl

theorem isSome_front?_iff : (front? cs).isSome ↔ Begins cs := by
  refine ⟨fun h => ?_, ?_⟩
  · obtain ⟨⟨m, body, after⟩, hfront⟩ := Option.isSome_iff_exists.1 h
    exact ⟨m, body ++ (m.closer ++ after), eq_of_front? hfront, ⟨body, after, by simp⟩⟩
  · rintro ⟨m, rest, rfl, hrest⟩
    rw [front?_opener_append, Option.isSome_map]
    exact isSome_splitAtCloser_iff.2 hrest

theorem front?_eq_none_iff : front? cs = none ↔ ¬ Begins cs := by
  rw [← isSome_front?_iff, Option.not_isSome_iff_eq_none]

end Marker

/-! ### Literal text -/

/-- In a stretch of text that is followed by some more no complete marker starts. -/
def IsLiteral (run after : List Char) : Prop :=
  ∀ pre post, run = pre ++ post → post ≠ [] → ¬ Marker.Begins (post ++ after)

theorem isLiteral_nil (after : List Char) : IsLiteral [] after := by
  intro pre post h hne
  exact absurd (List.append_eq_nil_iff.1 h.symm).2 hne

theorem isLiteral_cons_iff {c : Char} {run after : List Char} :
    IsLiteral (c :: run) after ↔ ¬ Marker.Begins (c :: (run ++ after)) ∧ IsLiteral run after := by
  refine ⟨fun h => ?_, ?_⟩
  · refine ⟨h [] (c :: run) rfl (List.cons_ne_nil _ _), fun pre post heq => ?_⟩
    exact h (c :: pre) post (by rw [heq]; rfl)
  · rintro ⟨hfront, hrun⟩ pre post heq hne
    cases pre with
    | nil =>
      rw [List.nil_append] at heq
      rwa [← heq]
    | cons b pre => exact hrun pre post (List.cons.inj heq).2 hne

/-- A text without an opening brace is literal. -/
theorem isLiteral_of_not_mem {run after : List Char} (h : '{' ∉ run) : IsLiteral run after := by
  rintro pre post rfl hne ⟨m, rest, heq, -⟩
  obtain ⟨d, ds, rfl⟩ := List.exists_cons_of_ne_nil hne
  have hd : d = '{' := (List.cons.inj heq).1
  exact h (by simp [hd])

/-- The stretch that is split off is literal, and behind it the text ends or a marker starts. -/
theorem splitAtMarker_spec (cs : List Char) :
    IsLiteral (splitAtMarker cs).1 (splitAtMarker cs).2 ∧
      ((splitAtMarker cs).2 = [] ∨ Marker.Begins (splitAtMarker cs).2) := by
  induction cs with
  | nil => exact ⟨isLiteral_nil [], Or.inl rfl⟩
  | cons c cs ih =>
    rw [splitAtMarker]
    split
    · next h => exact ⟨isLiteral_nil _, Or.inr (Marker.isSome_front?_iff.1 h)⟩
    · next h =>
      refine ⟨isLiteral_cons_iff.2 ⟨?_, ih.1⟩, ih.2⟩
      rw [splitAtMarker_append]
      exact mt Marker.isSome_front?_iff.2 h

/-- Only one literal stretch reaches up to the end or to a marker. -/
theorem splitAtMarker_append_eq {run after : List Char} (hrun : IsLiteral run after)
    (hafter : after = [] ∨ Marker.Begins after) : splitAtMarker (run ++ after) = (run, after) := by
  induction run with
  | nil =>
    rcases hafter with rfl | h
    · rfl
    · obtain ⟨c, cs, rfl⟩ : ∃ c cs, after = c :: cs := by
        obtain ⟨m, rest, rfl, -⟩ := h
        exact ⟨'{', m.openingSign :: rest, rfl⟩
      rw [List.nil_append, splitAtMarker, if_pos (Marker.isSome_front?_iff.2 h)]
  | cons c run ih =>
    obtain ⟨hfront, hrun⟩ := isLiteral_cons_iff.1 hrun
    rw [List.cons_append, splitAtMarker, if_neg (mt Marker.isSome_front?_iff.1 hfront), ih hrun]

namespace Span

/-! ### Spans as they stand in a template -/

/-- The delimiter in front of the content. -/
def opening (s : Span) : List Char :=
  match s.kind with
  | .text => []
  | .marker m => m.opener

/-- The delimiter behind the content. -/
def closing (s : Span) : List Char :=
  match s.kind with
  | .text => []
  | .marker m => m.closer

/-- A span as it stands in the template, with its delimiters. -/
def written (s : Span) : List Char :=
  s.opening ++ (s.content.toList ++ s.closing)

theorem written_text (content : String) (loc : Location) :
    (⟨.text, content, loc⟩ : Span).written = content.toList := by
  simp [written, opening, closing]

theorem written_marker (m : Marker) (content : String) (loc : Location) :
    (⟨.marker m, content, loc⟩ : Span).written = m.opener ++ (content.toList ++ m.closer) := rfl

/-- The content starts behind the opening delimiter, which holds no line feed. -/
theorem contentLocation_eq (s : Span) : s.contentLocation = s.location.advance s.opening := by
  obtain ⟨kind, content, loc⟩ := s
  cases kind with
  | text => rfl
  | marker m => cases m <;> simp [contentLocation, opening, Marker.opener, Marker.openingSign,
      Location.step]

/-- The spans are a decomposition of a text whose first character has the given location. -/
structure Decomposes (loc : Location) (cs : List Char) (spans : List Span) : Prop where
  /-- The spans, written one after the other, give the text back. -/
  flatMap_written : spans.flatMap written = cs
  /-- A marker ends at the first closing delimiter. -/
  closesOnce : ∀ s ∈ spans, ∀ m, s.kind = .marker m → m.ClosesOnce s.content.toList
  text_ne_empty : ∀ s ∈ spans, s.kind = .text → s.content ≠ ""
  text_apart : ∀ before s t after, spans = before ++ s :: t :: after →
    s.kind = .text → t.kind ≠ .text
  /-- No complete marker starts inside literal text. -/
  text_literal : ∀ before s after, spans = before ++ s :: after → s.kind = .text →
    IsLiteral s.content.toList (after.flatMap written)
  location_eq : ∀ before s after, spans = before ++ s :: after →
    s.location = loc.advance (before.flatMap written)
  contentLocation_eq : ∀ before s after, spans = before ++ s :: after →
    s.contentLocation = loc.advance (before.flatMap written ++ s.opening)

/-- What a decomposition asks of its first span. -/
structure Leads (loc : Location) (s : Span) (rest : List Span) : Prop where
  location_eq : s.location = loc
  closesOnce : ∀ m, s.kind = .marker m → m.ClosesOnce s.content.toList
  text_ne_empty : s.kind = .text → s.content ≠ ""
  text_apart : s.kind = .text → ∀ t ∈ rest.head?, t.kind ≠ .text
  text_literal : s.kind = .text → IsLiteral s.content.toList (rest.flatMap written)

theorem decomposes_nil_iff {loc : Location} {cs : List Char} : Decomposes loc cs [] ↔ cs = [] := by
  refine ⟨fun h => ?_, ?_⟩
  · exact h.flatMap_written.symm
  · rintro rfl
    exact ⟨rfl, by simp, by simp, by simp, by simp, by simp, by simp⟩

/-- A decomposition is checked span by span, from the front. -/
theorem decomposes_cons_iff {loc : Location} {cs : List Char} {s : Span} {rest : List Span} :
    Decomposes loc cs (s :: rest) ↔
      Leads loc s rest ∧ ∃ after, cs = s.written ++ after ∧
        Decomposes (loc.advance s.written) after rest := by
  refine ⟨fun h => ?_, ?_⟩
  · refine ⟨⟨h.location_eq [] s rest rfl, h.closesOnce s List.mem_cons_self,
      h.text_ne_empty s List.mem_cons_self, ?_, h.text_literal [] s rest rfl⟩,
      rest.flatMap written, h.flatMap_written.symm, rfl, ?_, ?_, ?_, ?_, ?_, ?_⟩
    · intro hs t ht
      obtain ⟨after, rfl⟩ := List.head?_eq_some_iff.1 ht
      exact h.text_apart [] s t after rfl hs
    · exact fun t ht => h.closesOnce t (List.mem_cons_of_mem _ ht)
    · exact fun t ht => h.text_ne_empty t (List.mem_cons_of_mem _ ht)
    · exact fun before t u after heq => h.text_apart (s :: before) t u after (by rw [heq]; rfl)
    · exact fun before t after heq => h.text_literal (s :: before) t after (by rw [heq]; rfl)
    · intro before t after heq
      rw [h.location_eq (s :: before) t after (by rw [heq]; rfl), List.flatMap_cons,
        Location.advance_append]
    · intro before t after heq
      rw [h.contentLocation_eq (s :: before) t after (by rw [heq]; rfl), List.flatMap_cons,
        List.append_assoc, Location.advance_append]
  · rintro ⟨hs, after, rfl, hrest⟩
    have hloc : ∀ before t post, s :: rest = before ++ t :: post →
        t.location = loc.advance (before.flatMap written) := by
      intro before t post heq
      rcases List.cons_eq_append_iff.1 heq with ⟨rfl, h⟩ | ⟨before', rfl, h⟩
      · rw [(List.cons.inj h).1, hs.location_eq]
        rfl
      · rw [hrest.location_eq before' t post h, List.flatMap_cons, Location.advance_append]
    refine ⟨?_, ?_, ?_, ?_, ?_, hloc, ?_⟩
    · rw [List.flatMap_cons, hrest.flatMap_written]
    · exact List.forall_mem_cons.2 ⟨hs.closesOnce, hrest.closesOnce⟩
    · exact List.forall_mem_cons.2 ⟨hs.text_ne_empty, hrest.text_ne_empty⟩
    · intro before t u post heq
      rcases List.cons_eq_append_iff.1 heq with ⟨rfl, h⟩ | ⟨before', rfl, h⟩
      · obtain ⟨rfl, rfl⟩ := List.cons.inj h
        exact fun ht => hs.text_apart ht u rfl
      · exact hrest.text_apart before' t u post h
    · intro before t post heq
      rcases List.cons_eq_append_iff.1 heq with ⟨rfl, h⟩ | ⟨before', rfl, h⟩
      · obtain ⟨rfl, rfl⟩ := List.cons.inj h
        exact hs.text_literal
      · exact hrest.text_literal before' t post h
    · intro before t post heq
      rw [t.contentLocation_eq, hloc before t post heq, Location.advance_append]

/-! ### Cutting finds the decomposition -/

theorem cutFrom_nil (loc : Location) : cutFrom loc [] = [] := by
  rw [cutFrom]

theorem cutFrom_marker {m : Marker} {body : List Char} (hbody : m.ClosesOnce body)
    (loc : Location) (after : List Char) :
    cutFrom loc (m.opener ++ (body ++ (m.closer ++ after))) =
      ⟨.marker m, String.ofList body, loc⟩ ::
        cutFrom (loc.advance (m.opener ++ (body ++ m.closer))) after := by
  have hfront : Marker.front? (m.opener ++ (body ++ (m.closer ++ after))) = some (m, body, after) :=
    Marker.front?_eq_some_iff.2 ⟨rfl, hbody⟩
  obtain ⟨c, cs, hcs⟩ : ∃ c cs, m.opener ++ (body ++ (m.closer ++ after)) = c :: cs :=
    ⟨'{', m.openingSign :: (body ++ (m.closer ++ after)), rfl⟩
  rw [hcs] at hfront ⊢
  rw [cutFrom]
  split
  · next h =>
    rw [hfront] at h
    simp only [Option.some.injEq, Prod.mk.injEq] at h
    obtain ⟨rfl, rfl, rfl⟩ := h
    rw [List.append_assoc]
  · next h => simp [hfront] at h

theorem cutFrom_text {run after : List Char} (hne : run ≠ []) (hrun : IsLiteral run after)
    (hafter : after = [] ∨ Marker.Begins after) (loc : Location) :
    cutFrom loc (run ++ after) =
      ⟨.text, String.ofList run, loc⟩ :: cutFrom (loc.advance run) after := by
  cases run with
  | nil => exact absurd rfl hne
  | cons c run =>
    obtain ⟨hfront, hrun⟩ := isLiteral_cons_iff.1 hrun
    rw [List.cons_append, cutFrom]
    split
    · next h => simp [Marker.front?_eq_none_iff.2 hfront] at h
    · rw [splitAtMarker_append_eq hrun hafter]

/-- Where a marker starts, the first span is that marker. -/
theorem head?_cutFrom_of_begins {cs : List Char} (h : Marker.Begins cs) (loc : Location) :
    ∀ t ∈ (cutFrom loc cs).head?, t.kind ≠ .text := by
  obtain ⟨⟨m, body, after⟩, hfront⟩ := Option.isSome_iff_exists.1 (Marker.isSome_front?_iff.2 h)
  obtain ⟨rfl, hbody⟩ := Marker.front?_eq_some_iff.1 hfront
  rw [cutFrom_marker hbody]
  simp

/-- Cutting gives a decomposition. -/
theorem decomposes_cutFrom (loc : Location) (cs : List Char) :
    Decomposes loc cs (cutFrom loc cs) := by
  fun_induction cutFrom loc cs with
  | case1 => exact decomposes_nil_iff.2 rfl
  | case2 loc c cs m body after h ih =>
    obtain ⟨hcs, hbody⟩ := Marker.front?_eq_some_iff.1 h
    refine decomposes_cons_iff.2 ⟨⟨rfl, ?_, by simp, by simp, by simp⟩, after, ?_, ?_⟩
    · rintro m' hm
      cases hm
      simpa using hbody
    · rw [hcs, written_marker, String.toList_ofList, List.append_assoc, List.append_assoc]
    · rw [written_marker, String.toList_ofList]
      simpa [List.append_assoc] using ih
  | case3 loc c cs h piece ih =>
    obtain ⟨hrun, hafter⟩ := splitAtMarker_spec cs
    have hcs : piece.1 ++ piece.2 = cs := splitAtMarker_append cs
    have hfront : ¬ Marker.Begins (c :: (piece.1 ++ piece.2)) := by
      rw [hcs]
      exact Marker.front?_eq_none_iff.1 h
    refine decomposes_cons_iff.2
      ⟨⟨rfl, by simp, by simp, fun _ => ?_, fun _ => ?_⟩, piece.2, ?_, ?_⟩
    · rcases hafter with hnil | hbegins
      · rw [show piece.2 = [] from hnil, cutFrom_nil]
        simp
      · exact head?_cutFrom_of_begins hbegins _
    · rw [ih.flatMap_written, String.toList_ofList]
      exact isLiteral_cons_iff.2 ⟨hfront, hrun⟩
    · rw [written_text, String.toList_ofList, List.cons_append, hcs]
    · rwa [written_text, String.toList_ofList]

/-- In a decomposition that does not start with literal text, a marker starts at the front. -/
theorem Decomposes.eq_nil_or_begins {loc : Location} {cs : List Char} {spans : List Span}
    (h : Decomposes loc cs spans) (hhead : ∀ t ∈ spans.head?, t.kind ≠ .text) :
    cs = [] ∨ Marker.Begins cs := by
  cases spans with
  | nil => exact Or.inl (decomposes_nil_iff.1 h)
  | cons s rest =>
    obtain ⟨kind, content, sloc⟩ := s
    cases kind with
    | text => exact absurd rfl (hhead _ rfl)
    | marker m =>
      obtain ⟨-, after, rfl, -⟩ := decomposes_cons_iff.1 h
      refine Or.inr ⟨m, content.toList ++ (m.closer ++ after), ?_, ⟨content.toList, after, by simp⟩⟩
      simp [written_marker]

/-- There is no other decomposition. -/
theorem cutFrom_eq_of_decomposes {loc : Location} {cs : List Char} {spans : List Span}
    (h : Decomposes loc cs spans) : cutFrom loc cs = spans := by
  induction spans generalizing loc cs with
  | nil => rw [decomposes_nil_iff.1 h, cutFrom_nil]
  | cons s rest ih =>
    obtain ⟨hs, after, rfl, hrest⟩ := decomposes_cons_iff.1 h
    obtain ⟨kind, content, sloc⟩ := s
    obtain rfl : sloc = loc := hs.location_eq
    cases kind with
    | marker m =>
      rw [written_marker] at hrest ⊢
      rw [List.append_assoc, List.append_assoc, cutFrom_marker (hs.closesOnce m rfl), ih hrest,
        String.ofList_toList]
    | text =>
      have hafter := hrest.eq_nil_or_begins (hs.text_apart rfl)
      have hrun := hs.text_literal rfl
      rw [hrest.flatMap_written] at hrun
      have hne : content.toList ≠ [] := by simpa using hs.text_ne_empty rfl
      rw [written_text] at hrest ⊢
      rw [cutFrom_text hne hrun hafter, ih hrest, String.ofList_toList]

/-- The spans of a template are its only decomposition. -/
theorem eq_cut_iff {source : String} {spans : List Span} :
    spans = cut source ↔ Decomposes .start source.toList spans := by
  constructor
  · rintro rfl
    exact decomposes_cutFrom .start source.toList
  · intro h
    exact (cutFrom_eq_of_decomposes h).symm

/-- The location of a span is counted by the line feeds and the characters that stand before it. -/
theorem location_eq_behind {source : String} {before after : List Span} {s : Span}
    (h : cut source = before ++ s :: after) :
    s.location = Location.behind (before.flatMap written) := by
  rw [(decomposes_cutFrom .start source.toList).location_eq before s after h,
    Location.advance_start]

end Span

end TextTemplate
