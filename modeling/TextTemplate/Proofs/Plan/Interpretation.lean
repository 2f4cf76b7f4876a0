import TextTemplate.Proofs.Plan.Output
import TextTemplate.Proofs.Plan.RoundTrip

/-!
# Reading a template span by span

If no tags are registered, a template is literal text, comments and expressions. Rendering its plan
then comes to the same as going through the spans of the template in order: literal text is put out
as it stands, a comment as nothing, and an expression as the text of its value. The first expression
without a value ends this with an error at the opening delimiter of its marker.

## Main definitions

* `Compiler.Interprets`: what the spans of a template come to, read in order.
* `Compiler.Valued`, `Compiler.FirstMissing`: the expression of a span has a value, and it is the
  first one that has none.
* `Span.uncommented`: the text of some spans without the comments.

## Main results

* `Compiler.renderToString_iff_interprets`: the output of a plan is what its spans come to.
* `Compiler.render_untagged`: the same for templates, with what it says about single spans.
-/

namespace TextTemplate

namespace Node

variable {ctx : Context} {nodes : List Node} {e : Expr} {loc : Location}

theorem renderToString_text_cons (s : String) (h : (renderAll nodes ctx).Appends) :
    renderToString (.text s :: nodes) ctx = (s ++ ·) <$> renderToString nodes ctx := by
  have hnode : renderToString [.text s] ctx = .ok s := by
    simp [renderToString, renderAll, render, emit, bind, EStateM.bind, pure, EStateM.pure]
  rw [← List.singleton_append, renderToString_append _ h, hnode]
  rfl

theorem renderToString_expression_cons {v : Value} (hv : e.eval ctx = .ok v)
    (h : (renderAll nodes ctx).Appends) :
    renderToString (.expression e loc :: nodes) ctx =
      (v.display ++ ·) <$> renderToString nodes ctx := by
  have hrender : (Node.expression e loc).render ctx = emit v.display := by
    rw [render, Expr.evalAt_eq_ok hv]
    rfl
  have hnode : renderToString [.expression e loc] ctx = .ok v.display := by
    simp [renderToString, renderAll, hrender, emit, bind, EStateM.bind, pure, EStateM.pure]
  rw [← List.singleton_append, renderToString_append _ h, hnode]
  rfl

theorem renderToString_expression_cons_eq_error {cause : LookupError}
    (he : e.eval ctx = .error cause) :
    renderToString (.expression e loc :: nodes) ctx = .error (.lookup cause loc) := by
  have hevaluated : (Node.expression e loc).evaluated = some (loc, [e]) := rfl
  have hnode := render_of_firstFault hevaluated (.here he) ""
  simp only [renderToString, renderAll, bind, EStateM.bind, hnode]

end Node

/-- The text of some spans without the comments among them. -/
def Span.uncommented (spans : List Span) : List Char :=
  (spans.filter (·.kind ≠ .marker .comment)).flatMap Span.written

namespace Compiler

variable {c : Compiler} {ctx : Context} {opened : List String} {span : Span} {spans : List Span}
  {nodes : List Node} {r : Except Error String} {err : Error}

/-- What some spans come to in a context if they are read in order: the text that they put out, or
the error for the first expression that has no value. -/
inductive Interprets (c : Compiler) (ctx : Context) : List Span → Except Error String → Prop where
  | nil : Interprets c ctx [] (.ok "")
  | comment {span : Span} {spans : List Span} {r : Except Error String}
      (hkind : span.kind = .marker .comment) (hrest : Interprets c ctx spans r) :
      Interprets c ctx (span :: spans) r
  | text {span : Span} {spans : List Span} {r : Except Error String} (hkind : span.kind = .text)
      (hrest : Interprets c ctx spans r) :
      Interprets c ctx (span :: spans) ((span.content ++ ·) <$> r)
  | value {span : Span} {spans : List Span} {r : Except Error String} {e : Expr} {v : Value}
      (hkind : span.kind = .marker .expression) (he : c.HoldsExpression span e)
      (hv : e.eval ctx = .ok v) (hrest : Interprets c ctx spans r) :
      Interprets c ctx (span :: spans) ((v.display ++ ·) <$> r)
  | missing {span : Span} {spans : List Span} {e : Expr} {cause : LookupError}
      (hkind : span.kind = .marker .expression) (he : c.HoldsExpression span e)
      (hv : e.eval ctx = .error cause) :
      Interprets c ctx (span :: spans) (.error (.lookup cause span.location))

/-- A marker holds one expression at most. -/
theorem HoldsExpression.unique {e e' : Expr} (h : c.HoldsExpression span e)
    (h' : c.HoldsExpression span e') : e = e' :=
  Except.ok.inj ((holdsExpression_iff.1 h).symm.trans (holdsExpression_iff.1 h'))

/-! ### Plans without tags -/

section

variable (hregistry : ∀ name, c.registry.get? name = none)

include hregistry

theorem handlersAll_eq_nil (h : c.Matches opened spans nodes) : Node.handlersAll nodes = [] := by
  induction h with
  | nil => rfl
  | comment _ _ ih => exact ih
  | text _ _ ih | expression _ _ _ ih => rw [Node.handlersAll, ih, Node.handlers, List.append_nil]
  | single _ _ _ hhandler | enclosing _ _ _ hhandler =>
    rw [hregistry] at hhandler
    cases hhandler

theorem appends_of_matches (h : c.Matches opened spans nodes) :
    (Node.renderAll nodes ctx).Appends := by
  refine Node.appends_renderAll ctx nodes fun handler hhandler => ?_
  rw [handlersAll_eq_nil hregistry h] at hhandler
  cases hhandler

/-- Spans that match a plan can be read in order. -/
theorem exists_interprets (ctx : Context) (h : c.Matches opened spans nodes) :
    ∃ r, c.Interprets ctx spans r := by
  induction h with
  | nil => exact ⟨_, .nil⟩
  | comment hkind _ ih =>
    obtain ⟨r, hr⟩ := ih
    exact ⟨r, .comment hkind hr⟩
  | text hkind _ ih =>
    obtain ⟨r, hr⟩ := ih
    exact ⟨_, .text hkind hr⟩
  | @expression _ _ _ _ e hkind he _ ih =>
    obtain ⟨r, hr⟩ := ih
    cases hv : e.eval ctx with
    | error cause => exact ⟨_, .missing hkind he hv⟩
    | ok v => exact ⟨_, .value hkind he hv hr⟩
  | single _ _ _ hhandler | enclosing _ _ _ hhandler =>
    rw [hregistry] at hhandler
    cases hhandler

/-- What the spans come to is what the plan puts out. -/
theorem renderToString_of_interprets (h : c.Matches opened spans nodes)
    (hr : c.Interprets ctx spans r) : Node.renderToString nodes ctx = r := by
  induction h generalizing r with
  | nil =>
    cases hr
    rfl
  | comment hkind _ ih =>
    cases hr with
    | comment _ hrest => exact ih hrest
    | text hkind' _ | value hkind' _ _ _ | missing hkind' _ _ =>
      rw [hkind] at hkind'
      cases hkind'
  | text hkind hmatches ih =>
    cases hr with
    | text _ hrest =>
      rw [Node.renderToString_text_cons _ (appends_of_matches hregistry hmatches), ih hrest]
    | comment hkind' _ | value hkind' _ _ _ | missing hkind' _ _ =>
      rw [hkind] at hkind'
      cases hkind'
  | expression hkind he hmatches ih =>
    cases hr with
    | value _ he' hv hrest =>
      obtain rfl := he.unique he'
      rw [Node.renderToString_expression_cons hv (appends_of_matches hregistry hmatches), ih hrest]
    | missing _ he' hv =>
      obtain rfl := he.unique he'
      exact Node.renderToString_expression_cons_eq_error hv
    | comment hkind' _ | text hkind' _ =>
      rw [hkind] at hkind'
      cases hkind'
  | single _ _ _ hhandler | enclosing _ _ _ hhandler =>
    rw [hregistry] at hhandler
    cases hhandler

theorem renderToString_iff_interprets (h : c.Matches opened spans nodes) :
    Node.renderToString nodes ctx = r ↔ c.Interprets ctx spans r := by
  refine ⟨?_, renderToString_of_interprets hregistry h⟩
  rintro rfl
  obtain ⟨r, hr⟩ := exists_interprets hregistry ctx h
  rwa [renderToString_of_interprets hregistry h hr]

end

/-! ### What the reading says about single spans -/

/-- The expression of a span has a value, if the span is an expression marker. -/
def Valued (c : Compiler) (ctx : Context) (span : Span) : Prop :=
  span.kind = .marker .expression → ∃ e, c.HoldsExpression span e ∧ e.HasValue ctx

/-- Behind some spans, the given one is the first whose expression has no value. -/
structure FirstMissing (c : Compiler) (ctx : Context) (before : List Span) (span : Span)
    (cause : LookupError) : Prop where
  valued_before : ∀ s ∈ before, c.Valued ctx s
  kind_eq : span.kind = .marker .expression
  exists_expression : ∃ e, c.HoldsExpression span e ∧ e.eval ctx = .error cause

theorem valued_of_ne (h : span.kind ≠ .marker .expression) : c.Valued ctx span :=
  fun hkind => absurd hkind h

theorem FirstMissing.not_valued {before : List Span} {cause : LookupError}
    (h : c.FirstMissing ctx before span cause) : ¬ c.Valued ctx span := by
  intro hvalued
  obtain ⟨e, he, herr⟩ := h.exists_expression
  obtain ⟨e', he', v, hv⟩ := hvalued h.kind_eq
  obtain rfl := he.unique he'
  rw [herr] at hv
  cases hv

theorem Interprets.valued {out : String} (h : c.Interprets ctx spans (.ok out)) :
    ∀ span ∈ spans, c.Valued ctx span := by
  generalize hr : Except.ok out = r at h
  induction h generalizing out with
  | nil => simp
  | comment hkind _ ih => exact List.forall_mem_cons.2 ⟨valued_of_ne (by simp [hkind]), ih hr⟩
  | text hkind _ ih =>
    obtain ⟨rest, hrest, -⟩ := map_eq_ok_iff.1 hr.symm
    exact List.forall_mem_cons.2 ⟨valued_of_ne (by simp [hkind]), ih hrest.symm⟩
  | value hkind he hv _ ih =>
    obtain ⟨rest, hrest, -⟩ := map_eq_ok_iff.1 hr.symm
    exact List.forall_mem_cons.2 ⟨fun _ => ⟨_, he, _, hv⟩, ih hrest.symm⟩
  | missing => cases hr

/-- An error is that of the first expression without a value. -/
theorem Interprets.exists_firstMissing (h : c.Interprets ctx spans (.error err)) :
    ∃ before span after cause, spans = before ++ span :: after ∧
      c.FirstMissing ctx before span cause ∧ err = .lookup cause span.location := by
  generalize hr : Except.error err = r at h
  have hcons {span : Span} {spans : List Span} (hspan : c.Valued ctx span)
      (hrest : ∃ before last after cause, spans = before ++ last :: after ∧
        c.FirstMissing ctx before last cause ∧ err = .lookup cause last.location) :
      ∃ before last after cause, span :: spans = before ++ last :: after ∧
        c.FirstMissing ctx before last cause ∧ err = .lookup cause last.location := by
    obtain ⟨before, last, after, cause, rfl, hlast, herr⟩ := hrest
    exact ⟨span :: before, last, after, cause, rfl,
      ⟨List.forall_mem_cons.2 ⟨hspan, hlast.valued_before⟩, hlast.kind_eq,
        hlast.exists_expression⟩, herr⟩
  induction h with
  | nil => cases hr
  | comment hkind _ ih => exact hcons (valued_of_ne (by simp [hkind])) (ih hr)
  | text hkind _ ih =>
    exact hcons (valued_of_ne (by simp [hkind])) (ih (map_eq_error_iff.1 hr.symm).symm)
  | value hkind he hv _ ih =>
    exact hcons (fun _ => ⟨_, he, _, hv⟩) (ih (map_eq_error_iff.1 hr.symm).symm)
  | missing hkind he hv =>
    cases hr
    exact ⟨[], _, _, _, rfl, ⟨by simp, hkind, _, he, hv⟩, rfl⟩

/-! ### Templates without expressions -/

/-- A span is literal text or a comment. -/
def Plain (span : Span) : Prop :=
  span.kind = .text ∨ span.kind = .marker .comment

theorem exists_matches_of_plain (h : ∀ span ∈ spans, Plain span) :
    ∃ nodes, c.Matches opened spans nodes := by
  induction spans with
  | nil => exact ⟨[], .nil⟩
  | cons span spans ih =>
    obtain ⟨hspan, hspans⟩ := List.forall_mem_cons.1 h
    obtain ⟨nodes, hnodes⟩ := ih hspans
    rcases hspan with hkind | hkind
    · exact ⟨_, .text hkind hnodes⟩
    · exact ⟨_, .comment hkind hnodes⟩

theorem written_of_text (h : span.kind = .text) : span.written = span.content.toList := by
  simp [Span.written, Span.opening, Span.closing, h]

/-- Without expressions, the spans come to their text without the comments. -/
theorem interprets_of_plain (h : ∀ span ∈ spans, Plain span) :
    c.Interprets ctx spans (.ok (String.ofList (Span.uncommented spans))) := by
  induction spans with
  | nil => exact .nil
  | cons span spans ih =>
    obtain ⟨hspan, hspans⟩ := List.forall_mem_cons.1 h
    rcases hspan with hkind | hkind
    · have htext : Span.uncommented (span :: spans) =
          span.content.toList ++ Span.uncommented spans := by
        simp [Span.uncommented, hkind, written_of_text hkind]
      rw [htext, String.ofList_append, String.ofList_toList]
      exact .text hkind (ih hspans)
    · have hcomment : Span.uncommented (span :: spans) = Span.uncommented spans := by
        simp [Span.uncommented, hkind]
      rw [hcomment]
      exact .comment hkind (ih hspans)

/-- If no marker starts anywhere in a template, it is cut into one span at most, literal text. -/
theorem cut_of_isLiteral {source : String} (h : IsLiteral source.toList []) :
    Span.uncommented (Span.cut source) = source.toList ∧ ∀ span ∈ Span.cut source, Plain span := by
  by_cases hempty : source.toList = []
  · rw [Span.cut, hempty, Span.cutFrom_nil]
    exact ⟨rfl, by simp⟩
  · have hcut := Span.cutFrom_text hempty h (Or.inl rfl) .start
    rw [List.append_nil, Span.cutFrom_nil] at hcut
    rw [Span.cut, hcut]
    refine ⟨?_, List.forall_mem_singleton.2 (Or.inl rfl)⟩
    simp [Span.uncommented, Span.written_text]

/-! ### Templates -/

/-- Without tags, rendering a template comes to reading its spans in order. It succeeds if the
expressions of all markers have values, and an error is that of the first one without a value, at
its opening delimiter. A template without expressions and blocks compiles and is put out without its
comments, and one without markers is put out as it stands. -/
theorem render_untagged (limit : Nat) (source : String) :
    let c : Compiler := ⟨.empty, limit⟩
    (∀ t, c.compile source = .ok t → ∀ ctx,
      (∀ r, t.render ctx = r ↔ c.Interprets ctx (Span.cut source) r) ∧
        ((∃ out, t.render ctx = .ok out) ↔ ∀ span ∈ Span.cut source, c.Valued ctx span) ∧
        ∀ err, t.render ctx = .error err → ∃ before span after cause,
          Span.cut source = before ++ span :: after ∧ c.FirstMissing ctx before span cause ∧
            err = .lookup cause span.location ∧
              span.location = Location.start.advance (before.flatMap Span.written)) ∧
      ((∀ span ∈ Span.cut source, span.kind ≠ .marker .expression ∧ span.kind ≠ .marker .block) →
        ∃ t, c.compile source = .ok t ∧
          ∀ ctx, t.render ctx = .ok (String.ofList (Span.uncommented (Span.cut source)))) ∧
      (IsLiteral source.toList [] →
        ∃ t, c.compile source = .ok t ∧ ∀ ctx, t.render ctx = .ok source) := by
  intro c
  have hregistry : ∀ name, c.registry.get? name = none := Bindings.get?_empty
  have hrender {t : Template} (ht : c.compile source = .ok t) (ctx : Context)
      (r : Except Error String) : t.render ctx = r ↔ c.Interprets ctx (Span.cut source) r :=
    renderToString_iff_interprets hregistry (compile_eq_ok_iff.1 ht)
  have hplain (h : ∀ span ∈ Span.cut source, Plain span) : ∃ t, c.compile source = .ok t ∧
      ∀ ctx, t.render ctx = .ok (String.ofList (Span.uncommented (Span.cut source))) := by
    obtain ⟨nodes, hnodes⟩ : ∃ nodes, c.Matches [] (Span.cut source) nodes :=
      exists_matches_of_plain h
    have ht : c.compile source = .ok ⟨nodes⟩ := compile_eq_ok_iff.2 hnodes
    exact ⟨⟨nodes⟩, ht, fun ctx => (hrender ht ctx _).2 (interprets_of_plain h)⟩
  refine ⟨fun t ht ctx => ⟨hrender ht ctx, ⟨?_, fun h => ?_⟩, fun err herr => ?_⟩, fun h => ?_,
    fun h => ?_⟩
  · rintro ⟨out, hout⟩
    exact ((hrender ht ctx _).1 hout).valued
  · cases hr : t.render ctx with
    | ok out => exact ⟨out, rfl⟩
    | error err =>
      obtain ⟨before, span, after, cause, hcut, hmissing, -⟩ :=
        ((hrender ht ctx _).1 hr).exists_firstMissing
      exact absurd (h span (by simp [hcut])) hmissing.not_valued
  · obtain ⟨before, span, after, cause, hcut, hmissing, rfl⟩ :=
      ((hrender ht ctx _).1 herr).exists_firstMissing
    refine ⟨before, span, after, cause, hcut, hmissing, rfl, ?_⟩
    exact (Span.decomposes_cutFrom .start source.toList).location_eq before span after hcut
  · refine hplain fun span hspan => ?_
    obtain ⟨hexpression, hblock⟩ := h span hspan
    match hkind : span.kind with
    | .text => exact Or.inl hkind
    | .marker .comment => exact Or.inr hkind
    | .marker .expression => exact absurd hkind hexpression
    | .marker .block => exact absurd hkind hblock
  · obtain ⟨htext, hspans⟩ := cut_of_isLiteral h
    obtain ⟨t, ht, hout⟩ := hplain hspans
    rw [htext, String.ofList_toList] at hout
    exact ⟨t, ht, hout⟩

/-- A variable without a value is reported at its marker, behind the text and the comment. -/
theorem render_untagged_missing_variable :
    default.compile "a{# b #}{{ x }}" = .ok ⟨[.text "a", .expression (.lookup "x") ⟨1, 9⟩]⟩ ∧
      Template.render ⟨[.text "a", .expression (.lookup "x") ⟨1, 9⟩]⟩ .empty =
        .error (.lookup (.keyNotFound "x") ⟨1, 9⟩) ∧
      (∃ t, default.compile "a{# b #}c" = .ok t ∧ ∀ ctx, t.render ctx = .ok "ac") ∧
      IsLiteral "a\x7b\x7b b".toList [] ∧
        ∃ t, default.compile "a\x7b\x7b b" = .ok t ∧ ∀ ctx, t.render ctx = .ok "a\x7b\x7b b" := by
  have htext (after : List Char) :
      Span.cutFrom .start ("a".toList ++ ("{# b #}".toList ++ after)) =
        ⟨.text, "a", .start⟩ :: Span.cutFrom ⟨1, 2⟩ ("{# b #}".toList ++ after) := by
    have hbegins : Marker.Begins ("{# b #}".toList ++ after) :=
      ⟨.comment, " b #\x7d".toList ++ after, rfl, " b ".toList, after, rfl⟩
    exact Span.cutFrom_text (by decide) (isLiteral_of_not_mem (by decide)) (Or.inr hbegins) .start
  have hcomment (after : List Char) : Span.cutFrom ⟨1, 2⟩ ("{# b #}".toList ++ after) =
      ⟨.marker .comment, " b ", ⟨1, 2⟩⟩ :: Span.cutFrom ⟨1, 9⟩ after :=
    Span.cutFrom_marker (by decide : Marker.comment.ClosesOnce " b ".toList) ⟨1, 2⟩ after
  have hexpression : Span.cutFrom ⟨1, 9⟩ "{{ x }}".toList =
      ⟨.marker .expression, " x ", ⟨1, 9⟩⟩ :: Span.cutFrom ⟨1, 16⟩ [] :=
    Span.cutFrom_marker (by decide : Marker.expression.ClosesOnce " x ".toList) ⟨1, 9⟩ []
  have hliteral : Span.cutFrom ⟨1, 9⟩ ("c".toList ++ []) = ⟨.text, "c", ⟨1, 9⟩⟩ :: [] := by
    rw [Span.cutFrom_text (by decide) (isLiteral_of_not_mem (by decide)) (Or.inl rfl),
      Span.cutFrom_nil]
    rfl
  have hcut : Span.cut "a{# b #}{{ x }}" = [⟨.text, "a", .start⟩,
      ⟨.marker .comment, " b ", ⟨1, 2⟩⟩, ⟨.marker .expression, " x ", ⟨1, 9⟩⟩] := by
    have hsource : "a{# b #}{{ x }}".toList =
        "a".toList ++ ("{# b #}".toList ++ "{{ x }}".toList) := by decide
    rw [Span.cut, hsource, htext, hcomment, hexpression, Span.cutFrom_nil]
  have hcut' : Span.cut "a{# b #}c" = [⟨.text, "a", .start⟩, ⟨.marker .comment, " b ", ⟨1, 2⟩⟩,
      ⟨.text, "c", ⟨1, 9⟩⟩] := by
    have hsource : "a{# b #}c".toList =
        "a".toList ++ ("{# b #}".toList ++ ("c".toList ++ [])) := by decide
    rw [Span.cut, hsource, htext, hcomment, hliteral]
  have hvariable : default.Accepts .expression (.lookup "x") :=
    ⟨(by decide : Lexeme.IsName "x".toList), by decide⟩
  have hholds := holdsExpression_spanOf .preferDouble hvariable ⟨1, 9⟩
  have hcompile : default.compile "a{# b #}{{ x }}" =
      .ok ⟨[.text "a", .expression (.lookup "x") ⟨1, 9⟩]⟩ := by
    rw [compile_eq_ok_iff, hcut]
    exact .text rfl (.comment rfl (.expression rfl hholds .nil))
  have hinterprets : default.Interprets .empty (Span.cut "a{# b #}{{ x }}")
      (.error (.lookup (.keyNotFound "x") ⟨1, 9⟩)) := by
    rw [hcut]
    exact .text (r := .error _) rfl (.comment rfl (.missing rfl hholds rfl))
  have hplain : ∀ span ∈ Span.cut "a{# b #}c",
      span.kind ≠ .marker .expression ∧ span.kind ≠ .marker .block := by
    rw [hcut']
    decide
  have huncommented : Span.uncommented (Span.cut "a{# b #}c") = "ac".toList := by
    rw [hcut']
    rfl
  have hopener : IsLiteral "a\x7b\x7b b".toList [] := (splitAtMarker_spec "a\x7b\x7b b".toList).1
  obtain ⟨t, ht, hout⟩ := (render_untagged defaultMaxDepth "a{# b #}c").2.1 hplain
  rw [huncommented] at hout
  exact ⟨hcompile, ((render_untagged defaultMaxDepth _).1 _ hcompile .empty).1 _ |>.2 hinterprets,
    ⟨t, ht, hout⟩, hopener, (render_untagged defaultMaxDepth "a\x7b\x7b b").2.2 hopener⟩

end Compiler

end TextTemplate
