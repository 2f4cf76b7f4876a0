import TextTemplate.Proofs.Plan.RoundTrip
import TextTemplate.Proofs.TagHeader.Recognition

/-!
# Plans of spans in turn

Spans that have a plan can be followed by others: what comes behind them is read as if it stood
alone, and its plan is added. Spans that have none cannot be mended by what follows them, unless
only the ends of some tags are missing. In that case the tags can be closed one by one, the
innermost first, by blocks that hold nothing but the names of their ends.

The first of these facts holds for all stacks of open tags: a run is not affected by the nodes that
were read before, which stay where they are, in front of the outermost open tag. The second one
needs that no reader of a marker reports a missing end. For the third, the names of open tags were
read as names, so that the names of their ends can be read, too.

## Main definitions

* `Error.IsUnclosed`: the error that a tag is never closed.
* `Assembly.behind`: an assembly behind some nodes that were read before.
* `Assembly.closers`: blocks that end the open tags.

## Main results

* `Compiler.run_behind`: a run is the same behind some nodes.
* `Compiler.not_isUnclosed_of_step`: no span gives rise to the error that a tag is never closed.
* `Compiler.run_closers`: the open tags can be closed.
* `Compiler.plan_append`: how the plan of two lists of spans in turn comes out of theirs.
-/

namespace TextTemplate

/-- The error that a tag is never closed. -/
def Error.IsUnclosed (err : Error) : Prop :=
  ∃ name last loc, err = .grammar (.unclosedTag name last) loc

/-! ### Readers of a marker -/

namespace Scan

variable {α β : Type} {x : Scan α} {f : α → Scan β}

/-- A reader never reports that a tag is not closed. -/
def Confined (x : Scan α) : Prop :=
  ∀ s err s', x s = .error err s' → ¬ err.IsUnclosed

theorem confined_pure (a : α) : Confined (pure a : Scan α) := fun _ _ _ h => by cases h

theorem confined_next : Confined Stream.next := by
  rintro s err s' h ⟨name, last, loc, rfl⟩
  have hscans := s.scans
  rw [(Stream.scan_of_next_eq_error h).2] at hscans
  cases hscans

theorem confined_fail {cause : GrammarError} (h : ∀ name last, cause ≠ .unclosedTag name last)
    (t : Token) : Confined (Stream.fail cause t : Scan α) := by
  rintro s _ _ ⟨⟩ ⟨name, last, loc, heq⟩
  exact h name last (Error.grammar.inj heq).1

theorem confined_unexpected (expected : Expectation) (t : Token) :
    Confined (Stream.unexpected expected t : Scan α) :=
  confined_fail (by simp) t

theorem Confined.bind (hx : Confined x) (hf : ∀ a, Confined (f a)) : Confined (x >>= f) := by
  intro s err s' h
  rcases bind_eq_error_iff.1 h with h | ⟨a, s₁, -, h⟩
  · exact hx s err s' h
  · exact hf a s₁ err s' h

theorem confined_expectEnd : Confined Stream.expectEnd :=
  confined_next.bind fun t => by
    split
    · exact confined_pure ()
    · exact confined_unexpected .endOfExpression t

end Scan

open Scan

namespace Expr

theorem confined_of_atom {α : Type} {t : Token} {cause : GrammarError}
    (h : atom t = .error cause) : Confined (Stream.fail cause t : Scan α) := by
  refine confined_fail (fun name last heq => ?_) t
  subst heq
  unfold atom at h
  split at h
  · cases h
  · split at h <;> cases h
  · cases h
  · cases h
  · cases h

theorem confined_continueFrom (limit depth : Nat) (stack : List Expr) (e : Expr) :
    Confined (continueFrom limit depth stack e) := by
  intro s err s' h
  fun_induction continueFrom limit depth stack e s with
  | case1 stack e s err₁ s₁ hnext =>
    cases h
    exact confined_next s _ _ hnext
  | case2 e s t s₁ _ stack _ err₁ s₂ hname =>
    cases h
    exact confined_next s₁ _ _ hname
  | case3 e s t s₁ _ stack _ name s₂ _ _ ih => exact ih h
  | case4 e s t s₁ _ stack _ name s₂ => exact confined_unexpected .nameAfterDot name s₂ _ _ h
  | case5 e s t s₁ => exact confined_fail (by simp) t s₁ _ _ h
  | case6 e s t s₁ _ stack _ _ err₁ s₂ hfirst =>
    cases h
    exact confined_next s₁ _ _ hfirst
  | case7 e s t s₁ _ stack _ _ first s₂ => exact confined_fail (by simp) t s₂ _ _ h
  | case8 e s t s₁ _ stack _ _ first s₂ _ _ cause hatom =>
    exact confined_of_atom hatom s₂ _ _ h
  | case9 e s t s₁ _ stack _ _ first s₂ _ _ key _ ih => exact ih h
  | case10 e s t s₁ _ base stack _ ih => exact ih h
  | case11 e s t s₁ => exact confined_unexpected .closingBracket t s₁ _ _ h
  | case12 => cases h

theorem confined_parse (limit : Nat) : Confined (parse limit) :=
  confined_next.bind fun t => by
    split
    · next hatom => exact confined_of_atom hatom
    · exact confined_continueFrom limit 0 [] _

end Expr

namespace TagHeader

theorem error_of_andThen {argument : Argument} {r : EStateM.Result Error Stream (List Argument)}
    {err : Error} {s : Stream} (h : andThen argument r = .error err s) : r = .error err s := by
  cases r with
  | ok arguments s => cases h
  | error err s => exact h

theorem confined_arguments (limit : Nat) : Confined (arguments limit) := by
  intro s err s' h
  fun_induction arguments limit s with
  | case1 s err₁ s₁ hnext =>
    cases h
    exact confined_next s _ _ hnext
  | case2 => cases h
  | case3 s t s₁ _ _ ih => exact ih h
  | case4 s t s₁ _ _ err₁ s₂ hfollower =>
    cases h
    exact confined_next s₁ _ _ hfollower
  | case5 s t s₁ _ _ follower s₂ _ _ err₁ s₃ hparse =>
    cases h
    exact Expr.confined_parse limit s₂ _ _ hparse
  | case6 s t s₁ _ _ follower s₂ _ _ e s₃ _ ih => exact ih (error_of_andThen h)
  | case7 s t s₁ _ _ follower s₂ _ _ err₁ s₃ htrailers =>
    cases h
    exact Expr.confined_continueFrom limit 0 [] _ _ _ _ htrailers
  | case8 s t s₁ _ _ follower s₂ _ _ e s₃ _ ih => exact ih (error_of_andThen h)
  | case9 s t s₁ _ err₁ s₂ hparse =>
    cases h
    exact Expr.confined_parse limit _ _ _ hparse
  | case10 s t s₁ _ e s₂ _ _ _ _ ih => exact ih (error_of_andThen h)

theorem confined_parseArguments (limit : Nat) (name : String) :
    Confined (parseArguments limit name) := by
  intro s err s' h
  simp only [parseArguments, Functor.map, EStateM.map] at h
  split at h
  · cases h
  · next herr =>
    cases h
    exact confined_arguments limit s _ _ herr

theorem confined_parseName : Confined parseName :=
  confined_next.bind fun t => by
    split
    · exact confined_pure t
    · exact confined_unexpected .tagName t

end TagHeader

namespace Compiler

variable {c : Compiler} {a a' : Assembly} {span : Span} {spans : List Span} {err : Error}

theorem confined_openBlock (a : Assembly) (loc : Location) (t : Token) :
    Confined (c.openBlock a loc t) := by
  unfold openBlock
  split
  · refine confined_fail (fun name last => ?_) t
    unfold unregistered
    split <;> simp
  · split
    · exact confined_fail (by simp) t
    · exact (TagHeader.confined_parseArguments c.maxDepth t.text).bind fun _ => confined_pure _

theorem confined_block (a : Assembly) (loc : Location) : Confined (c.block a loc) :=
  TagHeader.confined_parseName.bind fun t => by
    split
    · exact confined_expectEnd.bind fun _ => confined_pure _
    · exact confined_openBlock a loc t

theorem confined_wholeExpression : Confined c.wholeExpression :=
  (Expr.confined_parse c.maxDepth).bind fun e => confined_expectEnd.bind fun _ => confined_pure e

/-- No span gives rise to the error that a tag is never closed. -/
theorem not_isUnclosed_of_step (h : c.step a span = .error err) : ¬ err.IsUnclosed := by
  unfold step at h
  split at h
  · cases h
  · cases h
  · rcases bind_eq_error_iff.1 h with h | ⟨e, -, ⟨⟩⟩
    obtain ⟨s', h⟩ := readSpan_eq_error_iff.1 h
    exact confined_wholeExpression _ _ _ h
  · obtain ⟨s', h⟩ := readSpan_eq_error_iff.1 h
    exact confined_block a span.location _ _ _ h

theorem not_isUnclosed_of_run (h : c.run a spans = .error err) : ¬ err.IsUnclosed := by
  obtain ⟨-, span, -, b, -, hstep⟩ := exists_step_of_run_eq_error h
  exact not_isUnclosed_of_step hstep

end Compiler

/-! ### Behind other nodes -/

/-- The open tags of an assembly, with some nodes in front of the outermost one. -/
def OpenTag.behindAll (front : List Node) : List OpenTag → List OpenTag
  | [] => []
  | [tag] => [{ tag with before := tag.before ++ front.reverse }]
  | tag :: outer => tag :: behindAll front outer

namespace Assembly

variable {front : List Node} {a : Assembly}

/-- An assembly with some nodes in front of all that has been read. -/
def behind (front : List Node) (a : Assembly) : Assembly :=
  match a.opened with
  | [] => ⟨[], a.nodes ++ front.reverse⟩
  | opened => ⟨OpenTag.behindAll front opened, a.nodes⟩

end Assembly

theorem OpenTag.map_call_behindAll (front : List Node) :
    ∀ opened : List OpenTag, (behindAll front opened).map (·.call) = opened.map (·.call)
  | [] => rfl
  | [_] => rfl
  | tag :: next :: outer => congrArg (tag.call :: ·) (map_call_behindAll front (next :: outer))

namespace Assembly

theorem map_call_behind (front : List Node) (a : Assembly) :
    (a.behind front).opened.map (·.call) = a.opened.map (·.call) := by
  obtain ⟨opened, nodes⟩ := a
  cases opened with
  | nil => rfl
  | cons tag outer => exact OpenTag.map_call_behindAll front _

theorem length_opened_behind (front : List Node) (a : Assembly) :
    (a.behind front).opened.length = a.opened.length := by
  simpa using congrArg List.length (map_call_behind front a)

theorem isEndedBy_behind (front : List Node) (a : Assembly) (name : String) :
    (a.behind front).isEndedBy name = a.isEndedBy name := by
  have hcalls := map_call_behind front a
  unfold isEndedBy
  cases h : a.opened <;> cases h' : (a.behind front).opened <;> simp_all

theorem add_behind (front : List Node) (a : Assembly) (node : Node) :
    (a.behind front).add node = (a.add node).behind front := by
  obtain ⟨_ | ⟨tag, outer⟩, nodes⟩ := a <;> rfl

theorem enter_behind (front : List Node) (a : Assembly) (call : TagCall) :
    (a.behind front).enter call = (a.enter call).behind front := by
  obtain ⟨_ | ⟨tag, outer⟩, nodes⟩ := a <;> rfl

theorem leave_behind (front : List Node) (a : Assembly) (h : a.opened ≠ []) :
    (a.behind front).leave = a.leave.behind front := by
  -- the outermost open tag keeps the nodes in front until it is closed
  obtain ⟨_ | ⟨tag, _ | ⟨next, outer⟩⟩, nodes⟩ := a
  · exact absurd rfl h
  · rfl
  · rfl

/-- What has been read is put behind the nodes in front of it, and an open tag stays open. -/
theorem finish_behind (front : List Node) (a : Assembly) :
    (a.behind front).finish = (front ++ ·) <$> a.finish := by
  obtain ⟨_ | ⟨tag, _ | ⟨next, outer⟩⟩, nodes⟩ := a
  · exact congrArg Except.ok (by simp [behind])
  · rfl
  · rfl

end Assembly

namespace Compiler

variable {c : Compiler} {a a' : Assembly} {span : Span} {spans : List Span} {err : Error}

theorem openBlock_behind (front : List Node) (a : Assembly) (loc : Location) (t : Token) :
    c.openBlock (a.behind front) loc t = Assembly.behind front <$> c.openBlock a loc t := by
  unfold openBlock
  rw [Assembly.length_opened_behind]
  split
  · rfl
  · split
    · rfl
    · rw [map_bind]
      refine bind_congr fun header => ?_
      simp only [map_pure, Assembly.enter_behind, Assembly.add_behind,
        apply_ite (Assembly.behind front)]

theorem block_behind (front : List Node) (a : Assembly) (loc : Location) :
    c.block (a.behind front) loc = Assembly.behind front <$> c.block a loc := by
  unfold block
  rw [map_bind]
  refine bind_congr fun t => ?_
  rw [Assembly.isEndedBy_behind]
  split
  · next hended =>
    have hopened : a.opened ≠ [] := by
      intro hopened
      simp [Assembly.isEndedBy, hopened] at hended
    rw [map_bind, Assembly.leave_behind front a hopened]
    exact bind_congr fun _ => (map_pure _ _).symm
  · exact openBlock_behind front a loc t

/-- A step is the same behind some nodes. -/
theorem step_behind (front : List Node) (a : Assembly) (span : Span) :
    c.step (a.behind front) span = Assembly.behind front <$> c.step a span := by
  unfold step
  split
  · exact congrArg Except.ok (Assembly.add_behind front a _)
  · rfl
  · rw [map_bind]
    refine bind_congr fun e => ?_
    rw [map_pure, Assembly.add_behind]
  · rw [block_behind, readSpan_map]

/-- A run is the same behind some nodes. -/
theorem run_behind (front : List Node) (a : Assembly) (spans : List Span) :
    c.run (a.behind front) spans = Assembly.behind front <$> c.run a spans := by
  induction spans generalizing a with
  | nil => rfl
  | cons span spans ih =>
    rw [run, run, List.foldlM_cons, List.foldlM_cons, step_behind, map_bind, bind_map_left]
    exact bind_congr fun b => ih b

/-! ### Closing the open tags -/

/-- The name of a tag is a name, since it was read as one. -/
theorem HoldsHeader.isName {header : TagHeader} (h : c.HoldsHeader span header) :
    Lexeme.IsName header.name.toList := by
  obtain ⟨t, s₁, s', hnext, ht, hname, -⟩ := holdsHeader_iff.1 h
  have hend : t.isEnd = false := by simp [Token.isEnd, ht]
  obtain ⟨cs, tail, hfront⟩ := (Stream.scanned_of_next rfl hnext).front?_eq hend
  have hformed := Lexeme.formed_of_front? hfront
  rw [ht, hname] at hformed
  cases hformed with
  | name h => exact h

theorem isName_of_run (h : c.run .empty spans = .ok a) :
    ∀ x ∈ a.names, Lexeme.IsName x.toList := by
  refine run_induction (P := fun a => ∀ x ∈ a.names, Lexeme.IsName x.toList)
    (fun a span a' hstep ha => ?_) h (by simp [Assembly.names, Assembly.empty])
  cases hstep with
  | comment | text | expression | single => exact ha
  | enter hopens => exact List.forall_mem_cons.2 ⟨hopens.holdsHeader.isName, ha⟩
  | leave =>
    intro x hx
    refine ha x ?_
    unfold Assembly.leave at hx
    split at hx
    · exact hx
    · next hopened => simp_all [Assembly.names]

end Compiler

/-- Blocks that end the open tags, the innermost one first. -/
def Assembly.closers (a : Assembly) : List Span :=
  a.names.map fun name => Marker.block.spanOf [.ofName (endName name)] .start

namespace Compiler

variable {c : Compiler} {a : Assembly} {span : Span} {spans : List Span} {err : Error}

/-- The open tags can be closed. -/
theorem run_closers (h : ∀ x ∈ a.names, Lexeme.IsName x.toList) :
    ∃ b, c.run a a.closers = .ok b ∧ b.opened = [] := by
  obtain ⟨opened, nodes⟩ := a
  -- closing a tag changes the nodes of the next one, but not the names that are still open
  induction opened generalizing nodes with
  | nil => exact ⟨_, rfl, rfl⟩
  | cons tag outer ih =>
    obtain ⟨htag, houter⟩ := List.forall_mem_cons.1 h
    obtain ⟨b, hrun, hb⟩ := ih _ houter
    have hend := holdsOnly_spanOf (Lexeme.isName_endName htag) .start
    have hends : EndsTag ⟨tag :: outer, nodes⟩ _ := ⟨rfl, tag.call.name, rfl, hend⟩
    exact ⟨b, run_cons_eq_ok_iff.2 ⟨_, .leave hends, hrun⟩, hb⟩

theorem holdsOnly_of_mem_closers (h : ∀ x ∈ a.names, Lexeme.IsName x.toList) :
    ∀ span ∈ a.closers, span.kind = .marker .block ∧ ∃ x, span.HoldsOnly (endName x) := by
  intro span hspan
  obtain ⟨x, hx, rfl⟩ := List.mem_map.1 hspan
  exact ⟨rfl, x, holdsOnly_spanOf (Lexeme.isName_endName (h x hx)) .start⟩

/-! ### Plans -/

theorem plan_append_eq_run (c : Compiler) (front spans : List Span) :
    c.plan (front ++ spans) =
      c.run .empty front >>= fun a => c.run a spans >>= Assembly.finish := by
  rw [plan_eq_run, run, List.foldlM_append, bind_assoc]
  rfl

/-- Behind spans that have a plan, other spans are read as if they stood alone. -/
theorem plan_append_of_plan_eq_ok {front : List Span} {nodes : List Node}
    (h : c.plan front = .ok nodes) (spans : List Span) :
    c.plan (front ++ spans) = (nodes ++ ·) <$> c.plan spans := by
  rw [plan_eq_run] at h
  obtain ⟨⟨opened, reversed⟩, hrun, hfinish⟩ := bind_eq_ok_iff.1 h
  obtain ⟨rfl, rfl⟩ := Assembly.finish_eq_ok_iff.1 hfinish
  have hbehind : (⟨[], reversed⟩ : Assembly) = Assembly.empty.behind reversed.reverse := by
    simp [Assembly.behind, Assembly.empty]
  calc c.plan (front ++ spans)
      = c.run (Assembly.empty.behind reversed.reverse) spans >>= Assembly.finish := by
        rw [plan_append_eq_run, hrun, ← hbehind]
        rfl
    _ = c.run .empty spans >>= fun b => (b.behind reversed.reverse).finish := by
        rw [run_behind, bind_map_left]
    _ = (reversed.reverse ++ ·) <$> c.plan spans := by
        rw [plan_eq_run, map_bind]
        exact bind_congr fun b => Assembly.finish_behind _ b

/-- Spans have no plan if one of them cannot be read, or else if a tag is open in the end. -/
theorem plan_eq_error_iff : c.plan spans = .error err ↔
    c.run .empty spans = .error err ∨
      ∃ a tag outer, c.run .empty spans = .ok a ∧ a.opened = tag :: outer ∧
        err = .grammar (.unclosedTag tag.call.name (endName tag.call.name)) tag.call.location := by
  rw [plan_eq_run, bind_eq_error_iff]
  refine or_congr_right (exists_congr fun a => ?_)
  unfold Assembly.finish
  cases a.opened <;> simp [eq_comm]

theorem plan_append_of_run_eq_error {front : List Span} (h : c.run .empty front = .error err)
    (spans : List Span) : c.plan (front ++ spans) = .error err := by
  rw [plan_append_eq_run, h]
  rfl

/-- Spans that cannot be read have no plan, whatever follows. -/
theorem plan_append_of_not_isUnclosed {front : List Span} (h : c.plan front = .error err)
    (herr : ¬ err.IsUnclosed) (spans : List Span) : c.plan (front ++ spans) = .error err := by
  obtain hrun | ⟨a, tag, outer, -, -, rfl⟩ := plan_eq_error_iff.1 h
  · exact plan_append_of_run_eq_error hrun spans
  · exact absurd ⟨_, _, _, rfl⟩ herr

/-- If only ends are missing, these can be supplied, the end of the innermost tag first. -/
theorem exists_plan_append_of_unclosedTag {front : List Span} {name last : String} {loc : Location}
    (h : c.plan front = .error (.grammar (.unclosedTag name last) loc)) :
    ∃ first rest nodes, c.plan (front ++ first :: rest) = .ok nodes ∧ first.HoldsOnly last ∧
      ∀ span ∈ first :: rest,
        span.kind = .marker .block ∧ ∃ x, span.HoldsOnly (endName x) := by
  obtain hrun | ⟨⟨_, nodes⟩, tag, outer, hrun, rfl, heq⟩ := plan_eq_error_iff.1 h
  · exact absurd ⟨name, last, loc, rfl⟩ (not_isUnclosed_of_run hrun)
  · obtain ⟨⟨rfl, rfl⟩, rfl⟩ : (name = _ ∧ last = _) ∧ loc = _ := by simpa using heq
    have hnames := isName_of_run hrun
    obtain ⟨b, hclosers, hb⟩ := run_closers (c := c) hnames
    refine ⟨_, _, b.nodes.reverse, ?_,
      holdsOnly_spanOf (Lexeme.isName_endName (hnames _ List.mem_cons_self)) .start,
      holdsOnly_of_mem_closers hnames⟩
    rw [plan_append_eq_run]
    have hfinish : b.finish = .ok b.nodes.reverse := Assembly.finish_eq_ok_iff.2 ⟨hb, rfl⟩
    exact bind_eq_ok_iff.2 ⟨_, hrun, bind_eq_ok_iff.2 ⟨b, hclosers, hfinish⟩⟩

/-- A plan of spans in turn is made of theirs, and the first fault is that of the whole. Spans that
have no plan can be completed exactly if some tags are not closed, and then their ends suffice. -/
theorem plan_append (c : Compiler) (front : List Span) :
    (∀ nodes, c.plan front = .ok nodes → ∀ spans,
      (∀ nodes', c.plan spans = .ok nodes' → c.plan (front ++ spans) = .ok (nodes ++ nodes')) ∧
        ∀ err, c.plan spans = .error err → c.plan (front ++ spans) = .error err) ∧
      ∀ err, c.plan front = .error err →
        (¬ err.IsUnclosed → ∀ spans, c.plan (front ++ spans) = .error err) ∧
        (err.IsUnclosed ↔ ∃ spans nodes, c.plan (front ++ spans) = .ok nodes) ∧
        ∀ name last loc, err = .grammar (.unclosedTag name last) loc →
          ∃ first rest nodes, c.plan (front ++ first :: rest) = .ok nodes ∧
            first.HoldsOnly last ∧
            ∀ span ∈ first :: rest,
              span.kind = .marker .block ∧ ∃ x, span.HoldsOnly (endName x) := by
  refine ⟨fun nodes hfront spans => ?_, fun err hfront => ⟨?_, ⟨?_, ?_⟩, ?_⟩⟩
  · rw [plan_append_of_plan_eq_ok hfront]
    exact ⟨fun nodes' h => map_eq_ok_iff.2 ⟨nodes', h, rfl⟩, fun err h => map_eq_error_iff.2 h⟩
  · exact fun herr => plan_append_of_not_isUnclosed hfront herr
  · rintro ⟨name, last, loc, rfl⟩
    obtain ⟨first, rest, nodes, hplan, -⟩ := exists_plan_append_of_unclosedTag hfront
    exact ⟨first :: rest, nodes, hplan⟩
  · rintro ⟨spans, nodes, hplan⟩
    refine Classical.byContradiction fun herr => ?_
    rw [plan_append_of_not_isUnclosed hfront herr] at hplan
    cases hplan
  · rintro name last loc rfl
    exact exists_plan_append_of_unclosedTag hfront

/-- A tag that is open can be closed, but a marker without an expression stays a fault. -/
theorem plan_append_unclosed_if :
    let c := default.withTag "if" transparent
    let text : Span := ⟨.text, "a", ⟨1, 1⟩⟩
    let opening : Span := ⟨.marker .block, " if ", ⟨1, 2⟩⟩
    let missing : Span := ⟨.marker .expression, "", ⟨1, 10⟩⟩
    let fault : Error := .grammar (.unexpected .literalOrName "end of expression") ⟨1, 12⟩
    c.plan [text] = .ok [.text "a"] ∧
      c.plan [opening] = .error (.grammar (.unclosedTag "if" "endif") ⟨1, 2⟩) ∧
      c.plan ([text] ++ [opening]) = .error (.grammar (.unclosedTag "if" "endif") ⟨1, 2⟩) ∧
      (∃ first rest nodes, c.plan ([opening] ++ first :: rest) = .ok nodes ∧
        first.HoldsOnly "endif") ∧
      c.plan [opening, missing] = .error fault ∧
      ∀ spans, c.plan ([opening, missing] ++ spans) = .error fault := by
  intro c text opening missing fault
  have hcall : c.AcceptsCall ⟨"if", transparent, [], [], ⟨1, 2⟩⟩ :=
    ⟨(by decide : Lexeme.IsName "if".toList), rfl, by simp, by simp⟩
  have hopens : c.step .empty opening =
      .ok (Assembly.empty.enter ⟨"if", transparent, [], [], ⟨1, 2⟩⟩) :=
    step_eq_ok_iff.2 (.enter ⟨rfl, holdsHeader_spanOf .preferDouble hcall ⟨1, 2⟩,
      by simp [Assembly.names, Assembly.empty], rfl, fun _ => by decide⟩ rfl)
  have htext : c.plan [text] = .ok [.text "a"] := rfl
  have hopening : c.plan [opening] = .error (.grammar (.unclosedTag "if" "endif") ⟨1, 2⟩) := by
    rw [plan_eq_run, run_cons_of_ok hopens]
    rfl
  have hmissing : c.plan [opening, missing] = .error fault := by
    rw [plan_eq_run, run_cons_of_ok hopens]
    rfl
  obtain ⟨first, rest, nodes, hplan, hfirst, -⟩ :=
    ((plan_append c [opening]).2 _ hopening).2.2 "if" "endif" ⟨1, 2⟩ rfl
  refine ⟨htext, hopening, ?_, ⟨first, rest, nodes, hplan, hfirst⟩, hmissing, ?_⟩
  · exact ((plan_append c [text]).1 _ htext [opening]).2 _ hopening
  · exact ((plan_append c [opening, missing]).2 _ hmissing).1 (by simp [Error.IsUnclosed, fault])

end Compiler

end TextTemplate
