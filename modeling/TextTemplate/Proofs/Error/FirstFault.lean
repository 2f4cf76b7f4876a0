import TextTemplate.Proofs.Stream.Rereading
import TextTemplate.Proofs.TagHeader.Failure

/-!
# Errors are reported at the first fault

The location of an error in an expression or in a tag header denotes a point of the text of the
marker. Up to that point nothing is wrong: the text before it can be completed so that reading
succeeds. Nor is the point too early: a token that is refused there is refused whatever stands
behind it, with the same error at the same location. This leaves out the errors that are due to what
follows the point. A bracket is reported as unclosed because nothing follows it, and the end marker
because it is the end.

What the readers do with words is known from `Scan.FailsBehind`. It remains to write the words as a
text, and to see that the tokens before the point are read from the other texts as well.

## Main definitions

* `Scan.FirstFault`: an error is reported at the first place that rules out success.

## Main results

* `Scan.FailsBehind.exists_firstFault`: how the fault is found in the text.
* `Compiler.reports_firstFault`: expressions and tag headers report their first fault.
-/

namespace TextTemplate

/-! ### Points of a text -/

namespace Stream

variable {content read mid last before rest : List Char} {origin : Location} {s : Stream}
  {us vs : List Token}

theorem HasRead.locationOf_eq (h : s.HasRead content origin read)
    (hcontent : content = before ++ rest) :
    s.locationOf (utf8Length before) = origin.advance before := by
  rw [locationOf, h.content_eq, h.origin_eq, hcontent, takeBytes_utf8Length]

theorem Tiles.append (h : Tiles content read us mid) (h' : Tiles content mid vs last) :
    Tiles content read (us ++ vs) last := by
  induction h with
  | nil => exact h'
  | cons hgap ht _ ih => exact .cons hgap ht (ih h')

theorem hasRead_of_toList {content : String} {cs : List Char} (h : content.toList = cs)
    (origin : Location) : (ofContent content origin).HasRead cs origin [] :=
  h ▸ hasRead_ofContent content origin

end Stream

/-! ### The first fault -/

/-- An error of a reader is reported at the first place that rules out success. The text before that
place is given. -/
structure Scan.FirstFault {α : Type} (f : Scan α) (content : String) (origin : Location)
    (err : Error) (before : List Char) : Prop where
  isPrefix : before <+: content.toList
  location_eq : err.location? = some (origin.advance before)
  /-- The location denotes no other point of the text. -/
  eq_before : ∀ before', before' <+: content.toList →
    err.location? = some (origin.advance before') → before' = before
  /-- What stands before the place can be completed. -/
  exists_completion : ∃ content' : String, before <+: content'.toList ∧
    ∃ a s, f (Stream.ofContent content' origin) = .ok a s
  /-- What stands at the place is refused whatever follows. -/
  refuses : ∀ cause loc, err = .grammar cause loc →
    ∃ t ∈ (Stream.ofContent content origin).tokens, t.start = utf8Length before ∧
      (cause ≠ .unclosedBracket → t.isEnd = false → ∀ (content' : String) (c : Char),
        Lexeme.isBlank c = true → takeBytes t.stop content.toList ++ [c] <+: content'.toList →
        ∃ s, f (Stream.ofContent content' origin) = .error err s)

namespace Scan

variable {α : Type} {f : Scan α} {content : String} {origin : Location} {err : Error}
  {us : List Token} {ws : List Word} {read gap rest : List Char} {s : Stream} {t : Token}
  {cause : GrammarError}

/-- Words that complete what has been read can be written behind it. -/
theorem FailsBehind.exists_completion
    (h : f.FailsBehind (Stream.ofContent content origin) us ws err)
    (htiles : Stream.Tiles content.toList [] us read) (hcontent : content.toList = read ++ rest)
    (hgap : ∀ c ∈ gap, Lexeme.isBlank c = true) :
    ∃ content' : String, read ++ gap <+: content'.toList ∧
      ∃ a s, f (Stream.ofContent content' origin) = .ok a s := by
  have hcontent' : (String.ofList (read ++ gap ++ Stream.spaced ws)).toList =
      read ++ gap ++ Stream.spaced ws := String.toList_ofList
  obtain ⟨vs, hdelivers, hvs⟩ := htiles.exists_delivers hcontent hgap h.spells
    (Stream.hasRead_of_toList hcontent' origin)
  obtain ⟨a, s, hf, -⟩ := h.readsAll _ vs hdelivers hvs
  exact ⟨_, by rw [hcontent']; exact List.prefix_append _ _, a, s, hf⟩

/-- A token that is refused behind some others is refused in every text that begins like the given
one up to the token and goes on with a blank. -/
theorem Refuses.exists_error {here : List Char}
    (h : f.Refuses (us.map Token.word) t.word cause)
    (htiles : Stream.Tiles content.toList [] us read)
    (hgap : ∀ c ∈ gap, Lexeme.isBlank c = true)
    (ht : t.StandsIn content.toList (read ++ gap) here) {content' : String} {c : Char}
    (hc : Lexeme.isBlank c = true)
    (hcontent' : takeBytes t.stop content.toList ++ [c] <+: content'.toList) :
    ∃ s, f (Stream.ofContent content' origin) =
      .error (.grammar cause (origin.advance (read ++ gap))) s := by
  obtain ⟨tail, htail⟩ := ht.isLongest.front
  have hcontent : content.toList = read ++ gap ++ t.text.toList ++ tail := by
    rw [ht.content_eq, ← htail, List.append_assoc _ t.text.toList]
  obtain ⟨rest, hrest⟩ := hcontent'
  rw [ht.stop_eq, hcontent, takeBytes_utf8Length, List.append_assoc] at hrest
  -- the tokens up to the given one are read from the other text as well
  obtain ⟨ts, s', htakes, hplaced, hs'⟩ := (htiles.append (.cons hgap ht .nil)).exists_takes
    hcontent hrest.symm (by rintro d ⟨⟩; exact hc) (Stream.hasRead_ofContent content' origin)
  rw [List.map_append] at hplaced
  obtain ⟨vs, xs, rfl, hvs, hxs⟩ := List.map_eq_append_iff.1 hplaced
  obtain ⟨u, rfl, hu⟩ := List.map_eq_singleton_iff.1 hxs
  obtain ⟨hword, hstart⟩ := Prod.mk.inj hu
  obtain ⟨s₁, hvsTakes, hs₁⟩ := Stream.takes_append_iff.1 htakes
  obtain ⟨s₂, hnext, hend, hnil⟩ := Stream.takes_cons_iff.1 hs₁
  obtain rfl := Stream.takes_nil_iff.1 hnil
  have hlocation : s'.locationOf u.start = origin.advance (read ++ gap) := by
    rw [hstart, ht.start_eq]
    exact hs'.locationOf_eq (hrest.symm.trans (List.append_assoc _ _ _))
  rw [← hlocation]
  exact h _ vs s₁ u s' hvsTakes (Token.map_word_of_placed hvs) hnext hword hend

/-- An error that is put behind the tokens of a text and some blanks is found in its place. -/
theorem FailsBehind.firstFault {here : List Char}
    (h : f.FailsBehind (Stream.ofContent content origin) us ws err)
    (htiles : Stream.Tiles content.toList [] us read)
    (hcontent : content.toList = read ++ gap ++ here) (hgap : ∀ c ∈ gap, Lexeme.isBlank c = true)
    (hlocation : err.location? = some (origin.advance (read ++ gap)))
    (hrefuses : ∀ cause loc, err = .grammar cause loc →
      ∃ t ∈ (Stream.ofContent content origin).tokens, t.start = utf8Length (read ++ gap) ∧
        (cause ≠ .unclosedBracket → t.isEnd = false → ∀ (content' : String) (c : Char),
          Lexeme.isBlank c = true → takeBytes t.stop content.toList ++ [c] <+: content'.toList →
          ∃ s, f (Stream.ofContent content' origin) = .error err s)) :
    f.FirstFault content origin err (read ++ gap) where
  isPrefix := ⟨here, hcontent.symm⟩
  location_eq := hlocation
  eq_before := by
    rintro before' ⟨here', hbefore'⟩ hlocation'
    rw [hlocation] at hlocation'
    exact (Location.eq_of_advance_eq (hcontent.symm.trans hbefore'.symm)
      (Option.some.inj hlocation')).symm
  exists_completion :=
    h.exists_completion htiles (hcontent.trans (List.append_assoc _ _ _)) hgap
  refuses := hrefuses

/-- Where a reader fails behind some tokens of a text, the fault is the first one. -/
theorem FailsBehind.exists_firstFault
    (h : f.FailsBehind (Stream.ofContent content origin) us ws err) :
    ∃ before, f.FirstFault content origin err before := by
  have hs := Stream.hasRead_ofContent content origin
  have hfault := h.fault
  cases hfault with
  | @lexical s₁ s₂ _ hus hnext =>
    obtain ⟨read, htiles, hs₁⟩ := hus.exists_tiles hs
    obtain ⟨gap, here, hcontent, hgap, -, hadvances⟩ := Stream.exists_advances hs₁
    rw [hnext] at hadvances
    obtain ⟨-, c, -, rfl⟩ := hadvances.of_error
    exact ⟨read ++ gap, h.firstFault htiles hcontent hgap rfl fun _ _ heq => by cases heq⟩
  | @refused s₁ s₂ t cause hus hnext hrefuses =>
    obtain ⟨read, htiles, hs₁⟩ := hus.exists_tiles hs
    obtain ⟨gap, here, hcontent, hgap, -, hadvances⟩ := Stream.exists_advances hs₁
    rw [hnext] at hadvances
    have hmem : t ∈ (Stream.ofContent content origin).tokens := by
      rw [hus.tokens_eq]
      exact List.mem_append_right _ (List.mem_of_mem_head? (Stream.head?_tokens hnext))
    have hstart := hadvances.start_eq hcontent
    have hlocation : s₂.locationOf t.start = origin.advance (read ++ gap) := by
      rw [Stream.locationOf_of_next hnext, hstart]
      exact hs₁.locationOf_eq hcontent
    refine ⟨read ++ gap, h.firstFault htiles hcontent hgap (congrArg some hlocation) ?_⟩
    rintro _ _ ⟨⟩
    refine ⟨t, hmem, hstart, fun hcause hend content' c hc hcontent' => ?_⟩
    rw [hlocation]
    exact (hrefuses hcause hend).exists_error htiles hgap (hadvances.standsIn hend) hc hcontent'

end Scan

/-- An error in reading an expression that is a whole marker, or a tag header, is reported at the
first place that rules out success: the text before that place can be completed, and a token that
stands there and is refused is refused whatever follows. -/
theorem Compiler.reports_firstFault (c : Compiler) (content : String) (origin : Location) :
    (∀ err s, c.wholeExpression (Stream.ofContent content origin) = .error err s →
      ∃ before, c.wholeExpression.FirstFault content origin err before) ∧
    ∀ err s, TagHeader.parse c.maxDepth (Stream.ofContent content origin) = .error err s →
      ∃ before, (TagHeader.parse c.maxDepth).FirstFault content origin err before := by
  refine ⟨fun err s h => ?_, fun err s h => ?_⟩
  · obtain ⟨us, ws, hfails⟩ := exists_failsBehind_of_wholeExpression rfl h
    exact hfails.exists_firstFault
  · obtain ⟨us, ws, hfails⟩ := TagHeader.exists_failsBehind_of_parse rfl h
    exact hfails.exists_firstFault

/-- A name in the place of a closing bracket: what stands before it could go on with the bracket,
and the name is refused there whatever follows. -/
theorem Compiler.firstFault_missing_bracket :
    default.wholeExpression.FirstFault "a[b c" ⟨1, 3⟩
      (.grammar (.unexpected .closingBracket "name `c`") ⟨1, 7⟩) ['a', '[', 'b', ' '] := by
  let s : Stream := ⟨"a[b c".toList, ⟨1, 3⟩, [], 5, "a[b c", false, []⟩
  have h : default.wholeExpression (Stream.ofContent "a[b c" ⟨1, 3⟩) =
      .error (.grammar (.unexpected .closingBracket "name `c`") ⟨1, 7⟩) s := by
    refine Scan.bind_eq_error_iff.2 (Or.inl ?_)
    rw [Expr.parse_of_next rfl]
    refine (Expr.continueFrom_leftBracket rfl rfl (by decide) rfl rfl).trans ?_
    rw [Expr.continueFrom_eq]
    rfl
  obtain ⟨before, hfault⟩ := (reports_firstFault default "a[b c" ⟨1, 3⟩).1 _ s h
  rw [hfault.eq_before ['a', '[', 'b', ' '] (by decide) rfl]
  exact hfault

end TextTemplate
