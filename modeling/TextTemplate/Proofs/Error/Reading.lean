import TextTemplate.Proofs.Error.Report
import TextTemplate.Proofs.TagHeader.Recognition

/-!
# The errors of the compiler are in their place

The readers of expressions, of tag headers and of blocks keep to the marker whose content they read.
Two kinds of error look back from the place where they are noticed: an opening bracket behind which
the marker ends is itself reported, and a tag that is not ended is reported at its opening
delimiter, long after the stream of its block is gone. The latter rests on the outcome of the whole
run, which says which span opened the innermost open tag and that the spans behind it match its
body.

## Main results

* `Compiler.sound_continueFrom`, `Compiler.sound_arguments`: the two loops keep to the marker.
* `Compiler.faults_of_step`: an error of one step is reported in the marker at hand.
* `Compiler.faults_of_finish`: a tag without its end is reported at its opening delimiter.
* `Compiler.exists_reports_of_compile_eq_error`: every error points at the text that it reports.
-/

namespace TextTemplate.Compiler

variable {source : String} {c : Compiler} {p : Place source} {s : Stream} {t : Token}

/-! ### Expressions -/

/-- A token that is no atom is reported where it stands. -/
theorem sound_fail_atom {α : Type} {Post : α → Prop} {read rest : List Char} {cause : GrammarError}
    (hs : s.Reads p) (ht : p.Bears t read rest) (h : Expr.atom t = .error cause) :
    c.Sound p Post (Stream.fail cause t s) := by
  unfold Expr.atom at h
  split at h
  · cases h
  · next hkind =>
    split at h
    · cases h
    · cases h
      have hend : t.isEnd = false := by simp [Token.isEnd, hkind]
      exact sound_fail hs ht fun before here loc hpoint => .invalidNumber hpoint
        (ht.text_ne_empty hend) (hpoint.prefix_here (ht.text_prefix hend))
  · cases h
  · cases h
    exact sound_unexpected hs ht
  · cases h
    exact sound_unexpected hs ht

/-- A token that is an operator stands where the spelling of the operator stands. -/
theorem spelling_isPrefixOf_rest {op : Operator} {read rest : List Char} (ht : p.Bears t read rest)
    (hop : t.kind = .operator op) : op.spelling <+: rest := by
  have hend : t.isEnd = false := by simp [Token.isEnd, hop]
  obtain ⟨tail, hfront⟩ := ht.front?_eq hend
  rw [← Lexeme.text_of_front? hfront hop]
  exact ht.text_prefix hend

/-- The loop over the trailers keeps to the marker, whatever brackets are open. -/
theorem sound_continueFrom (depth : Nat) (stack : List Expr) (e : Expr) (hs : s.Reads p) :
    c.Sound p (fun _ => True) (Expr.continueFrom c.maxDepth depth stack e s) := by
  fun_induction Expr.continueFrom c.maxDepth depth stack e s with
  | case1 stack e s err s' hnext => exact faults_of_next hs hnext
  | case2 e s t s₁ hnext stack hdot err s' hname =>
    obtain ⟨hs₁, -⟩ := hs.next hnext
    exact faults_of_next hs₁ hname
  | case3 e s t s₁ hnext stack hdot name s₂ hname hkind ih =>
    obtain ⟨hs₁, -⟩ := hs.next hnext
    obtain ⟨hs₂, -⟩ := hs₁.next hname
    exact ih hs₂
  | case4 e s t s₁ hnext stack hdot name s₂ hname hkind =>
    obtain ⟨hs₁, -⟩ := hs.next hnext
    obtain ⟨hs₂, read, rest, hbears⟩ := hs₁.next hname
    exact sound_unexpected hs₂ hbears
  | case5 e s t s₁ hnext stack hleft hdepth =>
    obtain ⟨hs₁, read, rest, ht⟩ := hs.next hnext
    exact sound_fail hs₁ ht fun before here loc hpoint =>
      .bracketTooDeep hpoint (hpoint.prefix_here (spelling_isPrefixOf_rest ht hleft))
  | case6 e s t s₁ hnext stack hleft hdepth err s' hfirst =>
    obtain ⟨hs₁, -⟩ := hs.next hnext
    exact faults_of_next hs₁ hfirst
  | case7 e s t s₁ hnext stack hleft hdepth first s₂ hfirst hend =>
    -- the marker ends behind the bracket, and the bracket is reported
    obtain ⟨hs₁, read, rest, ht⟩ := hs.next hnext
    obtain ⟨hs₂, -⟩ := hs₁.next hfirst
    exact sound_fail hs₂ ht fun before here loc hpoint =>
      .unclosedBracket hpoint (hpoint.prefix_here (spelling_isPrefixOf_rest ht hleft))
  | case8 e s t s₁ hnext stack hleft hdepth first s₂ hfirst hend cause hatom =>
    obtain ⟨hs₁, -⟩ := hs.next hnext
    obtain ⟨hs₂, read, rest, hbears⟩ := hs₁.next hfirst
    exact sound_fail_atom hs₂ hbears hatom
  | case9 e s t s₁ hnext stack hleft hdepth first s₂ hfirst hend key hatom ih =>
    obtain ⟨hs₁, -⟩ := hs.next hnext
    obtain ⟨hs₂, -⟩ := hs₁.next hfirst
    exact ih hs₂
  | case10 e s t s₁ hnext base stack hright ih =>
    obtain ⟨hs₁, -⟩ := hs.next hnext
    exact ih hs₁
  | case11 e s t s₁ hnext base stack =>
    obtain ⟨hs₁, read, rest, ht⟩ := hs.next hnext
    exact sound_unexpected hs₁ ht
  | case12 e s t s₁ hnext =>
    obtain ⟨hs₁, read, rest, ht⟩ := hs.next hnext
    refine ⟨?_, trivial⟩
    split
    · exact hs₁
    · exact hs₁.unread ht

theorem keepsTo_parse : c.KeepsTo p (Expr.parse c.maxDepth) fun _ => True := by
  refine keepsTo_next.bind fun t ht => ?_
  obtain ⟨read, rest, ht⟩ := ht
  split
  · next hatom => exact fun s hs => sound_fail_atom hs ht hatom
  · exact fun s hs => sound_continueFrom 0 [] _ hs

/-! ### Tag headers -/

/-- Arguments that are read keep to the marker if those behind them do. -/
theorem sound_andThen {argument : Argument} {result : EStateM.Result Error Stream (List Argument)}
    (h : c.Sound p (fun _ => True) result) :
    c.Sound p (fun _ => True) (TagHeader.andThen argument result) := by
  cases result with
  | ok arguments s => exact h
  | error err s => exact h

theorem sound_arguments (hs : s.Reads p) :
    c.Sound p (fun _ => True) (TagHeader.arguments c.maxDepth s) := by
  have htrailers (e : Expr) : c.KeepsTo p (Expr.parseTrailers c.maxDepth 0 e) fun _ => True :=
    fun s hs => sound_continueFrom 0 [] e hs
  fun_induction TagHeader.arguments c.maxDepth s with
  | case1 s err s' hnext => exact faults_of_next hs hnext
  | case2 s t s₁ hnext hend =>
    obtain ⟨hs₁, -⟩ := hs.next hnext
    exact ⟨hs₁, trivial⟩
  | case3 s t s₁ hnext hcomma ih =>
    obtain ⟨hs₁, -⟩ := hs.next hnext
    exact ih hs₁
  | case4 s t s₁ hnext hname err s' hfollower =>
    obtain ⟨hs₁, -⟩ := hs.next hnext
    exact faults_of_next hs₁ hfollower
  | case5 s t s₁ hnext hname follower s₂ hfollower hequal err s' hparse =>
    obtain ⟨hs₁, -⟩ := hs.next hnext
    obtain ⟨hs₂, -⟩ := hs₁.next hfollower
    exact keepsTo_parse.error hs₂ hparse
  | case6 s t s₁ hnext hname follower s₂ hfollower hequal e s₃ hparse ih =>
    obtain ⟨hs₁, -⟩ := hs.next hnext
    obtain ⟨hs₂, -⟩ := hs₁.next hfollower
    obtain ⟨hs₃, -⟩ := keepsTo_parse.ok hs₂ hparse
    exact sound_andThen (ih hs₃)
  | case7 s t s₁ hnext hname follower s₂ hfollower hequal err s' hparse =>
    obtain ⟨hs₁, -⟩ := hs.next hnext
    obtain ⟨hs₂, read, rest, hbears⟩ := hs₁.next hfollower
    exact (htrailers _).error (hs₂.unread hbears) hparse
  | case8 s t s₁ hnext hname follower s₂ hfollower hequal e s₃ hparse ih =>
    obtain ⟨hs₁, -⟩ := hs.next hnext
    obtain ⟨hs₂, read, rest, hbears⟩ := hs₁.next hfollower
    obtain ⟨hs₃, -⟩ := (htrailers _).ok (hs₂.unread hbears) hparse
    exact sound_andThen (ih hs₃)
  | case9 s t s₁ hnext err s' hparse hend hcomma hname =>
    obtain ⟨hs₁, read, rest, ht⟩ := hs.next hnext
    exact keepsTo_parse.error (hs₁.unread ht) hparse
  | case10 s t s₁ hnext e s₂ hparse hend hcomma hname ih =>
    obtain ⟨hs₁, read, rest, ht⟩ := hs.next hnext
    obtain ⟨hs₂, -⟩ := keepsTo_parse.ok (hs₁.unread ht) hparse
    exact sound_andThen (ih hs₂)

/-! ### Blocks -/

theorem keepsTo_parseName :
    c.KeepsTo p TagHeader.parseName fun t => t.kind = .name ∧ ∃ read rest, p.Bears t read rest := by
  refine keepsTo_next.bind fun t ⟨read, rest, ht⟩ => ?_
  split
  · next hkind => exact keepsTo_pure ⟨hkind, read, rest, ht⟩
  · exact fun s hs => sound_unexpected hs ht

theorem keepsTo_parseArguments (name : String) :
    c.KeepsTo p (TagHeader.parseArguments c.maxDepth name) fun _ => True := by
  intro s hs
  have harguments : c.Sound p (fun _ => True) (TagHeader.arguments c.maxDepth s) :=
    sound_arguments hs
  simp only [TagHeader.parseArguments, Functor.map, EStateM.map]
  split
  · next h =>
    rw [h] at harguments
    exact harguments
  · next h =>
    rw [h] at harguments
    exact harguments

/-- The first token of a block stands behind blanks alone. -/
theorem names_of_next {s' : Stream} (hmarker : p.marker = .block)
    (h : p.span.stream.next = .ok t s') (ht : t.kind = .name) :
    ∃ read rest, p.Bears t read rest ∧ p.Names t.text read rest := by
  have hs := Stream.reads_stream p
  have hscan : p.span.stream.scan = .ok t s' := h
  obtain ⟨-, read, hread, hbears⟩ := hs.scan hscan
  have hcontent : p.span.stream.rest = p.content.toList := rfl
  rw [hcontent] at hread
  obtain rfl : read = [] := List.self_eq_append_left.1 hread
  have hend : t.isEnd = false := by simp [Token.isEnd, ht]
  have hfront := hbears.front?_eq hend
  rw [ht] at hfront
  exact ⟨_, _, hbears, hmarker, p.span.stream.isBlank_of_mem_gap, hfront⟩

/-- A tag that is refused is reported where its name stands. -/
theorem keepsTo_openBlock {a : Assembly} {loc : Location} {read rest : List Char}
    (ht : p.Bears t read rest) (hname : p.Names t.text read rest) :
    c.KeepsTo p (c.openBlock a loc t) fun _ => True := by
  have hhere : t.text.toList <+: rest := by
    obtain ⟨tail, hfront⟩ := hname.front?_eq
    exact ⟨tail, (Lexeme.cut_of_front? hfront).text_append_rest⟩
  unfold openBlock
  split
  · refine fun s hs => sound_fail hs ht fun before here loc hpoint => ?_
    unfold unregistered
    split
    · exact .unexpectedEndTag hpoint hname (hpoint.prefix_here hhere)
    · exact .unknownTag hpoint hname (hpoint.prefix_here hhere)
  · next handler hhandler =>
    split
    · next hdepth =>
      exact fun s hs => sound_fail hs ht fun before here loc hpoint =>
        .tagTooDeep hpoint hname hhandler hdepth.1 (hpoint.prefix_here hhere)
    · exact (keepsTo_parseArguments t.text).bind fun _ _ => keepsTo_pure trivial

theorem faults_of_block {a : Assembly} {loc : Location} {s' : Stream} {err : Error}
    (hmarker : p.marker = .block) (h : c.block a loc p.span.stream = .error err s') :
    c.Faults p err := by
  have hs := Stream.reads_stream p
  rcases Scan.bind_eq_error_iff.1 h with hparse | ⟨t, s₁, hparse, h⟩
  · exact keepsTo_parseName.error hs hparse
  · obtain ⟨hnext, hkind⟩ := Stream.parseName_eq_ok_iff.1 hparse
    obtain ⟨hs₁, -⟩ := hs.next hnext
    obtain ⟨read, rest, ht, hname⟩ := names_of_next hmarker hnext hkind
    by_cases hended : a.isEndedBy t.text = true
    · rw [if_pos hended] at h
      have hend : c.KeepsTo p (do Stream.expectEnd; return a.leave) fun _ => True :=
        keepsTo_expectEnd.bind fun _ _ => keepsTo_pure trivial
      exact hend.error hs₁ h
    · rw [if_neg hended] at h
      exact (keepsTo_openBlock ht hname).error hs₁ h

theorem faults_of_wholeExpression {s' : Stream} {err : Error}
    (h : c.wholeExpression p.span.stream = .error err s') : c.Faults p err := by
  have hkeeps : c.KeepsTo p c.wholeExpression fun _ => True :=
    keepsTo_parse.bind fun _ _ => keepsTo_expectEnd.bind fun _ _ => keepsTo_pure trivial
  exact hkeeps.error (Stream.reads_stream p) h

/-! ### Templates -/

/-- Only markers give rise to errors, and they do so in their place. -/
theorem faults_of_step {a : Assembly} {span : Span} {err : Error} {before after : List Span}
    (hcut : Span.cut source = before ++ span :: after) (h : c.step a span = .error err) :
    ∃ p : Place source, c.Faults p err := by
  obtain ⟨kind, content, location⟩ := span
  cases kind with
  | text => cases h
  | marker m =>
    let p : Place source := ⟨before, m, content, location, after, hcut⟩
    refine ⟨p, ?_⟩
    cases m with
    | comment => cases h
    | expression =>
      obtain herror | ⟨e, -, hadd⟩ := bind_eq_error_iff.1 h
      · obtain ⟨s', hread⟩ := readSpan_eq_error_iff.1 herror
        exact faults_of_wholeExpression hread
      · cases hadd
    | block =>
      obtain ⟨s', hread⟩ := readSpan_eq_error_iff.1 h
      exact faults_of_block rfl hread

/-- A tag that is open at the end of the template is reported at its opening delimiter. -/
theorem faults_of_finish {a : Assembly} {err : Error}
    (hrun : c.run .empty (Span.cut source) = .ok a) (h : a.finish = .error err) :
    ∃ p : Place source, c.Faults p err := by
  generalize hcut : Span.cut source = spans at hrun
  cases outcome_of_run hrun with
  | added h' => cases h
  | ended _ hlast _ =>
    obtain ⟨-, x, hx, -⟩ := hlast
    cases hx
  | @leftOpen before span after header handler nodes b hopens hbody hmatches =>
    obtain ⟨kind, content, location⟩ := span
    obtain rfl : kind = .marker .block := hopens.kind_eq
    let p : Place source := ⟨before, .block, content, location, after, hcut⟩
    have hopen : c.LeavesOpen p header.name :=
      ⟨header, handler, b.names, nodes, rfl, hopens.holdsHeader, rfl, hopens.registered, hbody,
        hmatches⟩
    cases h
    refine ⟨p, _, _, p.source_eq, ?_, .unclosedTag rfl hopen (List.prefix_append _ _)⟩
    exact congrArg some p.location_eq

/-- Where compiling fails, the error points at the text that it reports. -/
theorem exists_reports_of_compile_eq_error {err : Error} (h : c.compile source = .error err) :
    ∃ (p : Place source) (before here : List Char), source.toList = before ++ here ∧
      err.location? = some (Location.start.advance before) ∧ c.Reports p before here err := by
  obtain hplan | ⟨nodes, -, hok⟩ := bind_eq_error_iff.1 h
  · obtain hrun | ⟨a, hrun, hfinish⟩ := bind_eq_error_iff.1 hplan
    · obtain ⟨before, span, after, b, hcut, hstep⟩ := exists_step_of_run_eq_error hrun
      exact faults_of_step hcut hstep
    · exact faults_of_finish hrun hfinish
  · cases hok

/-- A tag that is not registered is reported where its name stands, on the second line. -/
theorem exists_reports_of_compile_second_line :
    default.compile "é\n{% x %}" = .error (.grammar (.unknownTag "x") ⟨2, 4⟩) ∧
      ∃ (p : Place "é\n{% x %}") (before here : List Char),
        "é\n{% x %}".toList = before ++ here ∧
          some ⟨2, 4⟩ = some (Location.start.advance before) ∧
          default.Reports p before here (.grammar (.unknownTag "x") ⟨2, 4⟩) := by
  have hblock : Span.cutFrom ⟨2, 1⟩ "{% x %}".toList =
      ⟨.marker .block, " x ", ⟨2, 1⟩⟩ :: Span.cutFrom ⟨2, 8⟩ [] :=
    Span.cutFrom_marker (by decide : Marker.block.ClosesOnce " x ".toList) ⟨2, 1⟩ []
  have hliteral : IsLiteral "é\n".toList "{% x %}".toList := isLiteral_of_not_mem (by decide)
  have hbegins : Marker.Begins "{% x %}".toList := Marker.isSome_front?_iff.1 rfl
  have hcut : Span.cut "é\n{% x %}" =
      [⟨.text, "é\n", .start⟩, ⟨.marker .block, " x ", ⟨2, 1⟩⟩] := by
    have htext := Span.cutFrom_text (by decide) hliteral (Or.inr hbegins) .start
    rw [show Location.start.advance "é\n".toList = ⟨2, 1⟩ from rfl, hblock, Span.cutFrom_nil]
      at htext
    exact htext
  have herror : default.compile "é\n{% x %}" = .error (.grammar (.unknownTag "x") ⟨2, 4⟩) := by
    rw [compile, hcut]
    rfl
  exact ⟨herror, exists_reports_of_compile_eq_error herror⟩

end TextTemplate.Compiler
