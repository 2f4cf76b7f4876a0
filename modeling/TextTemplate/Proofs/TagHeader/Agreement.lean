import TextTemplate.Proofs.Stream.Agreement
import TextTemplate.Proofs.TagHeader.Failure

/-!
# Spacing does not matter

Expressions and tag headers are read from the words of their tokens. Two runs of a reader on streams
that agree go through the same rounds: whenever a token is looked at, pushed back or reported, there
is one of the same word in the other run. So they come to the same expression or header, or fail for
the same reason, and only the locations that they report may differ. In particular, a text may be
replaced by its tokens with single blanks between them.

## Main definitions

* `Compiler.ReadsAlike`: two streams are read alike.

## Main results

* `Expr.alike_continueFrom`, `TagHeader.alike_arguments`: the two loops see words only.
* `Compiler.readsAlike_joined`: a text may be written with single blanks between its tokens.
-/

namespace TextTemplate

namespace Expr

variable {limit depth : Nat} {stack : List Expr} {e : Expr} {s s' : Stream}

/-- The loop that reads trailers sees words only. -/
theorem alike_continueFrom (hs : s.Agrees s') :
    Scan.Alike Eq (continueFrom limit depth stack e s) (continueFrom limit depth stack e s') := by
  fun_induction continueFrom limit depth stack e s generalizing s' with
  | case1 stack e s err s₁ hnext => exact absurd hnext hs.next_ne_error
  | case2 e s t s₁ hnext stack hdot err s₂ hname =>
    obtain ⟨_, _, -, -, hs₁, -⟩ := hs.exists_next hnext
    exact absurd hname hs₁.next_ne_error
  | case3 e s t s₁ hnext stack hdot name s₂ hname hkind ih =>
    obtain ⟨t', s₁', hnext', hword, hs₁, -⟩ := hs.exists_next hnext
    obtain ⟨name', s₂', hname', hwordName, hs₂, -⟩ := hs₁.exists_next hname
    have hdot' : t'.kind = .operator .dot := (Token.kind_congr hword).symm.trans hdot
    have hkind' : name'.kind = .name := (Token.kind_congr hwordName).symm.trans hkind
    rw [continueFrom_dot hnext' hdot' hname' hkind', ← Token.text_congr hwordName]
    exact ih hs₂
  | case4 e s t s₁ hnext stack hdot name s₂ hname hkind =>
    obtain ⟨t', s₁', hnext', hword, hs₁, -⟩ := hs.exists_next hnext
    obtain ⟨name', s₂', hname', hwordName, -⟩ := hs₁.exists_next hname
    have hdot' : t'.kind = .operator .dot := (Token.kind_congr hword).symm.trans hdot
    have hkind' : name'.kind ≠ .name := Token.kind_congr hwordName ▸ hkind
    rw [continueFrom_dot_of_ne_name hnext' hdot' hname' hkind']
    exact Scan.alike_unexpected hwordName
  | case5 e s t s₁ hnext stack hleft hdepth =>
    obtain ⟨t', s₁', hnext', hword, -⟩ := hs.exists_next hnext
    have hleft' : t'.kind = .operator .leftBracket := (Token.kind_congr hword).symm.trans hleft
    rw [continueFrom_leftBracket_of_le hnext' hleft' hdepth]
    exact Scan.alike_fail
  | case6 e s t s₁ hnext stack hleft hdepth err s₂ hfirst =>
    obtain ⟨_, _, -, -, hs₁, -⟩ := hs.exists_next hnext
    exact absurd hfirst hs₁.next_ne_error
  | case7 e s t s₁ hnext stack hleft hdepth first s₂ hfirst hend =>
    obtain ⟨t', s₁', hnext', hword, hs₁, -⟩ := hs.exists_next hnext
    obtain ⟨first', s₂', hfirst', hwordFirst, -⟩ := hs₁.exists_next hfirst
    have hleft' : t'.kind = .operator .leftBracket := (Token.kind_congr hword).symm.trans hleft
    have hend' : first'.isEnd = true := (Token.isEnd_congr hwordFirst).symm.trans hend
    rw [continueFrom_leftBracket_of_isEnd hnext' hleft' (Nat.not_le.1 hdepth) hfirst' hend']
    exact Scan.alike_fail
  | case8 e s t s₁ hnext stack hleft hdepth first s₂ hfirst hend cause hatom =>
    obtain ⟨t', s₁', hnext', hword, hs₁, -⟩ := hs.exists_next hnext
    obtain ⟨first', s₂', hfirst', hwordFirst, -⟩ := hs₁.exists_next hfirst
    have hleft' : t'.kind = .operator .leftBracket := (Token.kind_congr hword).symm.trans hleft
    have hend' : ¬ first'.isEnd = true := Token.isEnd_congr hwordFirst ▸ hend
    rw [continueFrom_leftBracket_of_atom_error hnext' hleft' (Nat.not_le.1 hdepth) hfirst' hend'
      ((atom_congr hwordFirst).symm.trans hatom)]
    exact Scan.alike_fail
  | case9 e s t s₁ hnext stack hleft hdepth first s₂ hfirst hend key hatom ih =>
    obtain ⟨t', s₁', hnext', hword, hs₁, -⟩ := hs.exists_next hnext
    obtain ⟨first', s₂', hfirst', hwordFirst, hs₂, -⟩ := hs₁.exists_next hfirst
    have hleft' : t'.kind = .operator .leftBracket := (Token.kind_congr hword).symm.trans hleft
    rw [continueFrom_leftBracket hnext' hleft' (Nat.not_le.1 hdepth) hfirst'
      ((atom_congr hwordFirst).symm.trans hatom)]
    exact ih hs₂
  | case10 e s t s₁ hnext base stack hright ih =>
    obtain ⟨t', s₁', hnext', hword, hs₁, -⟩ := hs.exists_next hnext
    rw [continueFrom_rightBracket hnext' ((Token.kind_congr hword).symm.trans hright)]
    exact ih hs₁
  | case11 e s t s₁ hnext base stack hdot hleft hright =>
    obtain ⟨t', s₁', hnext', hword, -⟩ := hs.exists_next hnext
    have hkind : t'.kind = t.kind := (Token.kind_congr hword).symm
    rw [continueFrom_of_ne_rightBracket hnext' (hkind ▸ hdot) (hkind ▸ hleft) (hkind ▸ hright)]
    exact Scan.alike_unexpected hword
  | case12 e s t s₁ hnext hdot hleft =>
    obtain ⟨t', s₁', hnext', hword, hs₁, hunread⟩ := hs.exists_next hnext
    have hkind : t'.kind = t.kind := (Token.kind_congr hword).symm
    rw [continueFrom_stop hnext' (not_or.2 ⟨hkind ▸ hdot, hkind ▸ hleft⟩),
      ← Token.isEnd_congr hword]
    refine .ok rfl ?_
    split
    · exact hs₁
    · exact hunread

theorem matches_parseTrailers : Scan.Matches Eq (parseTrailers limit depth e)
    (parseTrailers limit depth e) :=
  fun _ _ hs => alike_continueFrom hs

theorem matches_parse : Scan.Matches Eq (parse limit) (parse limit) := by
  refine Scan.matches_next.bind fun t t' hword => ?_
  rw [atom_congr hword]
  split
  · exact fun _ _ _ => Scan.alike_fail
  · exact matches_parseTrailers

end Expr

namespace TagHeader

variable {limit : Nat} {s s' : Stream} {argument : Argument}

theorem alike_andThen {result result' : EStateM.Result Error Stream (List Argument)}
    (h : Scan.Alike Eq result result') :
    Scan.Alike Eq (andThen argument result) (andThen argument result') := by
  cases h with
  | ok ha hs => exact .ok (congrArg (argument :: ·) ha) hs
  | error => exact .error

/-- The loop that reads arguments sees words only. -/
theorem alike_arguments (hs : s.Agrees s') :
    Scan.Alike Eq (arguments limit s) (arguments limit s') := by
  fun_induction arguments limit s generalizing s' with
  | case1 s err s₁ hnext => exact absurd hnext hs.next_ne_error
  | case2 s t s₁ hnext hend =>
    obtain ⟨t', s₁', hnext', hword, hs₁, -⟩ := hs.exists_next hnext
    have hend' : t'.isEnd = true := Token.isEnd_iff.2 ((Token.kind_congr hword).symm.trans hend)
    rw [arguments_endMarker hnext' hend']
    exact .ok rfl hs₁
  | case3 s t s₁ hnext hcomma ih =>
    obtain ⟨t', s₁', hnext', hword, hs₁, -⟩ := hs.exists_next hnext
    rw [arguments_comma hnext' ((Token.kind_congr hword).symm.trans hcomma)]
    exact ih hs₁
  | case4 s t s₁ hnext hname err s₂ hfollower =>
    obtain ⟨_, _, -, -, hs₁, -⟩ := hs.exists_next hnext
    exact absurd hfollower hs₁.next_ne_error
  | case5 s t s₁ hnext hname follower s₂ hfollower hequal err s₃ hparse =>
    obtain ⟨t', s₁', hnext', hword, hs₁, -⟩ := hs.exists_next hnext
    obtain ⟨follower', s₂', hfollower', hwordFollower, hs₂, -⟩ := hs₁.exists_next hfollower
    have hname' : t'.kind = .name := (Token.kind_congr hword).symm.trans hname
    have hequal' : follower'.isOperator .equal = true :=
      (Token.isOperator_congr hwordFollower .equal).symm.trans hequal
    obtain ⟨cause, loc, loc', s₃', rfl, hparse'⟩ := Expr.matches_parse.of_error hs₂ hparse
    rw [arguments_eq limit s']
    simp only [hnext', hname', hfollower', if_pos hequal', hparse']
    exact .error
  | case6 s t s₁ hnext hname follower s₂ hfollower hequal e s₃ hparse ih =>
    obtain ⟨t', s₁', hnext', hword, hs₁, -⟩ := hs.exists_next hnext
    obtain ⟨follower', s₂', hfollower', hwordFollower, hs₂, -⟩ := hs₁.exists_next hfollower
    have hname' : t'.kind = .name := (Token.kind_congr hword).symm.trans hname
    have hequal' : follower'.kind = .operator .equal :=
      of_decide_eq_true ((Token.isOperator_congr hwordFollower .equal).symm.trans hequal)
    obtain ⟨s₃', hparse', hs₃⟩ := Expr.matches_parse.of_ok hs₂ hparse
    rw [arguments_keyword hnext' hname' hfollower' hequal' hparse', ← Token.text_congr hword]
    exact alike_andThen (ih hs₃)
  | case7 s t s₁ hnext hname follower s₂ hfollower hequal err s₃ htrailers =>
    obtain ⟨t', s₁', hnext', hword, hs₁, -⟩ := hs.exists_next hnext
    obtain ⟨follower', s₂', hfollower', hwordFollower, -, hunread⟩ := hs₁.exists_next hfollower
    have hname' : t'.kind = .name := (Token.kind_congr hword).symm.trans hname
    have hequal' : ¬ follower'.isOperator .equal = true :=
      Token.isOperator_congr hwordFollower .equal ▸ hequal
    rw [Token.text_congr hword] at htrailers
    obtain ⟨cause, loc, loc', s₃', rfl, htrailers'⟩ :=
      Expr.matches_parseTrailers.of_error hunread htrailers
    rw [arguments_eq limit s']
    simp only [hnext', hname', hfollower', if_neg hequal', htrailers']
    exact .error
  | case8 s t s₁ hnext hname follower s₂ hfollower hequal e s₃ htrailers ih =>
    obtain ⟨t', s₁', hnext', hword, hs₁, -⟩ := hs.exists_next hnext
    obtain ⟨follower', s₂', hfollower', hwordFollower, -, hunread⟩ := hs₁.exists_next hfollower
    have hname' : t'.kind = .name := (Token.kind_congr hword).symm.trans hname
    have hequal' : ¬ follower'.isOperator .equal = true :=
      Token.isOperator_congr hwordFollower .equal ▸ hequal
    rw [Token.text_congr hword] at htrailers
    obtain ⟨s₃', htrailers', hs₃⟩ := Expr.matches_parseTrailers.of_ok hunread htrailers
    rw [arguments_eq limit s']
    simp only [hnext', hname', hfollower', if_neg hequal', htrailers']
    exact alike_andThen (ih hs₃)
  | case9 s t s₁ hnext err s₂ hparse hend hcomma hname =>
    obtain ⟨t', s₁', hnext', hword, -, hunread⟩ := hs.exists_next hnext
    have hkind : t'.kind = t.kind := (Token.kind_congr hword).symm
    obtain ⟨cause, loc, loc', s₂', rfl, hparse'⟩ := Expr.matches_parse.of_error hunread hparse
    rw [arguments_eq limit s']
    simp only [hnext', hkind, hparse']
    exact .error
  | case10 s t s₁ hnext e s₂ hparse hend hcomma hname ih =>
    obtain ⟨t', s₁', hnext', hword, -, hunread⟩ := hs.exists_next hnext
    have hkind : t'.kind = t.kind := (Token.kind_congr hword).symm
    obtain ⟨s₂', hparse', hs₂⟩ := Expr.matches_parse.of_ok hunread hparse
    rw [arguments_eq limit s']
    simp only [hnext', hkind, hparse']
    exact alike_andThen (ih hs₂)

theorem matches_parseName :
    Scan.Matches (fun t t' => t.word = t'.word) parseName parseName := by
  refine Scan.matches_next.bind fun t t' hword => ?_
  rw [Token.kind_congr hword]
  split
  · exact .pure hword
  · exact fun _ _ _ => Scan.alike_unexpected hword

theorem matches_parseArguments (limit : Nat) (name : String) :
    Scan.Matches Eq (parseArguments limit name) (parseArguments limit name) := by
  rw [parseArguments_eq_bind]
  exact Scan.Matches.bind (fun _ _ hs => alike_arguments hs) fun _ _ hargs =>
    .pure (congrArg (ofArguments name) hargs)

theorem matches_parse (limit : Nat) : Scan.Matches Eq (parse limit) (parse limit) := by
  refine matches_parseName.bind fun t t' hword => ?_
  rw [Token.text_congr hword]
  exact matches_parseArguments limit t'.text

end TagHeader

/-! ### Texts -/

namespace Compiler

theorem matches_wholeExpression (c : Compiler) :
    Scan.Matches Eq c.wholeExpression c.wholeExpression := by
  refine Expr.matches_parse.bind fun e e' he => ?_
  exact Scan.matches_expectEnd.bind fun _ _ _ => .pure he

/-- Two streams are read alike, both as an expression that is the whole of a marker and as a tag
header: the results are the same, or the faults are, and only the reported locations may differ. -/
structure ReadsAlike (c : Compiler) (s s' : Stream) : Prop where
  wholeExpression : Scan.Alike Eq (c.wholeExpression s) (c.wholeExpression s')
  header : Scan.Alike Eq (TagHeader.parse c.maxDepth s) (TagHeader.parse c.maxDepth s')

theorem readsAlike_of_agrees {s s' : Stream} (c : Compiler) (h : s.Agrees s') :
    c.ReadsAlike s s' :=
  ⟨c.matches_wholeExpression s s' h, TagHeader.matches_parse c.maxDepth s s' h⟩

/-- Spacing does not matter. If a text has tokens up to its end, so has the text in which they stand
with single blanks between them; they are of the same kinds and texts, and the two texts are read
alike. In fact any two texts whose tokens are of the same kinds and texts are read alike. -/
theorem readsAlike_joined (c : Compiler) {content : String} {origin : Location} {ts : List Token}
    (h : (Stream.ofContent content origin).Delivers ts none) :
    (∀ origin', ∃ us, (Stream.ofContent (Stream.joined ts) origin').Delivers us none ∧
        us.map Token.word = ts.map Token.word ∧
        c.ReadsAlike (Stream.ofContent content origin)
          (Stream.ofContent (Stream.joined ts) origin')) ∧
      ∀ content' origin' us, (Stream.ofContent content' origin').Delivers us none →
        us.map Token.word = ts.map Token.word →
        c.ReadsAlike (Stream.ofContent content origin) (Stream.ofContent content' origin') := by
  have halike : ∀ content' origin' us, (Stream.ofContent content' origin').Delivers us none →
      us.map Token.word = ts.map Token.word →
      c.ReadsAlike (Stream.ofContent content origin) (Stream.ofContent content' origin') :=
    fun content' origin' us hus hwords =>
      c.readsAlike_of_agrees (h.agrees hus rfl rfl hwords.symm)
  refine ⟨fun origin' => ?_, halike⟩
  obtain ⟨us, hus, hwords⟩ := h.exists_delivers_joined rfl origin'
  exact ⟨us, hus, hwords, halike _ _ _ hus hwords⟩

/-- A point ends a number before a name, and a string holds a quote and a line feed. -/
theorem readsAlike_joined_escapes :
    ∃ ts us, (Stream.ofContent "t\t4.b\n['\\'\\\n']" ⟨1, 4⟩).Delivers ts none ∧
      Stream.joined ts = "t 4. b [ '\\'\\\n' ]" ∧
      (Stream.ofContent "t 4. b [ '\\'\\\n' ]" ⟨7, 1⟩).Delivers us none ∧
      us.map Token.word = ts.map Token.word ∧
      Compiler.default.ReadsAlike (Stream.ofContent "t\t4.b\n['\\'\\\n']" ⟨1, 4⟩)
        (Stream.ofContent "t 4. b [ '\\'\\\n' ]" ⟨7, 1⟩) := by
  have hts : (Stream.ofContent "t\t4.b\n['\\'\\\n']" ⟨1, 4⟩).Delivers _ none :=
    .cons rfl rfl (.cons rfl rfl (.cons rfl rfl (.cons rfl rfl (.cons rfl rfl (.cons rfl rfl
      (.finish rfl rfl ⟨rfl, rfl⟩))))))
  obtain ⟨us, hus, hwords, halike⟩ := (readsAlike_joined Compiler.default hts).1 ⟨7, 1⟩
  exact ⟨_, us, hts, rfl, hus, hwords, halike⟩

end Compiler

end TextTemplate
