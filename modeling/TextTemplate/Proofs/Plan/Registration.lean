import TextTemplate.Proofs.Plan.RoundTrip

/-!
# Registering more tags

A compiler that knows more tags does the same, span by span, as one that knows fewer of them, up to
the point where the latter refuses a name for which it knows no tag. This holds also if a new tag
bears the name of the end of an open one: whether a block ends the innermost open tag is asked
before its name is looked up. What the end of a tag may be called is told apart only once a name is
refused.

## Main definitions

* `Registry.Extends`: one registry has all tags of another one.
* `Compiler.SameIfKnown`: two results are equal unless the first one is the refusal of a name.

## Main results

* `Compiler.block_sameIfKnown`: reading a block with fewer and with more tags.
* `Compiler.compile_of_extends`: compiling with fewer and with more tags.
-/

namespace TextTemplate

variable {small large : Registry} {limit : Nat}

/-- One registry has all tags of another one, with the same handlers. -/
def Registry.Extends (large small : Registry) : Prop :=
  ∀ name handler, small.get? name = some handler → large.get? name = some handler

/-- A tag whose name was free may be registered. -/
theorem Registry.extends_insert {name : String} (hfree : small.get? name = none)
    (handler : Handler) : Registry.Extends (small.insert name handler) small := by
  intro k h hk
  rw [Bindings.get?_insert, if_neg, hk]
  rintro rfl
  rw [hfree] at hk
  cases hk

/-- The error refuses a name for which no tag is registered. -/
def Error.RefusesName (err : Error) : Prop :=
  ∃ name loc, err = .grammar (.unknownTag name) loc ∨ err = .grammar (.unexpectedEndTag name) loc

namespace Compiler

variable {α β : Type}

/-- Two results are equal, unless the first one is the refusal of a name for which no tag is
registered. -/
def SameIfKnown (few many : Except Error α) : Prop :=
  few = many ∨ ∃ err, few = .error err ∧ err.RefusesName

theorem SameIfKnown.refl {x : Except Error α} : SameIfKnown x x :=
  Or.inl rfl

theorem SameIfKnown.bind {x y : Except Error α} {f g : α → Except Error β} (h : SameIfKnown x y)
    (hf : ∀ a, SameIfKnown (f a) (g a)) : SameIfKnown (x >>= f) (y >>= g) := by
  rcases h with rfl | ⟨err, rfl, herr⟩
  · cases x with
    | error err => exact .refl
    | ok a => exact hf a
  · exact Or.inr ⟨err, rfl, herr⟩

/-- A name without a tag is refused as such or as an end in the wrong place. -/
theorem refusesName_unregistered (c : Compiler) (name : String) (loc : Location) :
    (Error.grammar (c.unregistered name) loc).RefusesName := by
  unfold unregistered
  split
  · exact ⟨name, loc, Or.inr rfl⟩
  · exact ⟨name, loc, Or.inl rfl⟩

/-- A block whose tag both compilers know is read by both in the same way. -/
theorem openBlock_of_extends (h : large.Extends small) (a : Assembly) (loc : Location) {t : Token}
    {handler : Handler} (ht : small.get? t.text = some handler) :
    (⟨small, limit⟩ : Compiler).openBlock a loc t =
      (⟨large, limit⟩ : Compiler).openBlock a loc t := by
  unfold openBlock
  simp only [ht, h _ _ ht]

/-- A block is read in the same way unless its name is refused. -/
theorem block_sameIfKnown (h : large.Extends small) (a : Assembly) (loc : Location) (s : Stream) :
    (⟨small, limit⟩ : Compiler).block a loc s = (⟨large, limit⟩ : Compiler).block a loc s ∨
      ∃ err s', (⟨small, limit⟩ : Compiler).block a loc s = .error err s' ∧ err.RefusesName := by
  unfold block
  simp only [bind, EStateM.bind]
  cases TagHeader.parseName s with
  | error err s₁ =>
    left
    rfl
  | ok t s₁ =>
    by_cases hended : a.isEndedBy t.text = true
    · simp only [if_pos hended, true_or]
    · simp only [if_neg hended]
      cases ht : small.get? t.text with
      | some handler => exact Or.inl (by rw [openBlock_of_extends h a loc ht])
      | none =>
        have hrefused : (⟨small, limit⟩ : Compiler).openBlock a loc t s₁ =
            .error (.grammar (unregistered ⟨small, limit⟩ t.text) (s₁.locationOf t.start)) s₁ := by
          rw [openBlock, ht]
          rfl
        exact Or.inr ⟨_, s₁, hrefused, refusesName_unregistered _ t.text _⟩

theorem step_sameIfKnown (h : large.Extends small) (a : Assembly) (span : Span) :
    SameIfKnown ((⟨small, limit⟩ : Compiler).step a span)
      ((⟨large, limit⟩ : Compiler).step a span) := by
  unfold step
  split
  · exact .refl
  · exact .refl
  · exact .refl
  · rcases block_sameIfKnown h a span.location span.stream with heq | ⟨err, s', herror, herr⟩
    · unfold Span.stream at heq
      rw [readSpan, readSpan, heq]
      exact .refl
    · exact Or.inr ⟨err, readSpan_eq_error_iff.2 ⟨s', herror⟩, herr⟩

theorem run_sameIfKnown (h : large.Extends small) (a : Assembly) (spans : List Span) :
    SameIfKnown ((⟨small, limit⟩ : Compiler).run a spans)
      ((⟨large, limit⟩ : Compiler).run a spans) := by
  induction spans generalizing a with
  | nil => exact .refl
  | cons span spans ih =>
    rw [run, run, List.foldlM_cons, List.foldlM_cons]
    exact (step_sameIfKnown h a span).bind ih

theorem compile_sameIfKnown (h : large.Extends small) (source : String) :
    SameIfKnown ((⟨small, limit⟩ : Compiler).compile source)
      ((⟨large, limit⟩ : Compiler).compile source) :=
  ((run_sameIfKnown h .empty _).bind fun _ => .refl).bind fun _ => .refl

/-- Registering more tags changes neither the plan of a template that has one nor an error, unless
the error is that a name was refused. -/
theorem compile_of_extends (h : large.Extends small) (limit : Nat) (source : String) :
    (∀ t, (⟨small, limit⟩ : Compiler).compile source = .ok t →
        (⟨large, limit⟩ : Compiler).compile source = .ok t) ∧
      ∀ err, (⟨small, limit⟩ : Compiler).compile source = .error err →
        (∀ name loc, err ≠ .grammar (.unknownTag name) loc ∧
          err ≠ .grammar (.unexpectedEndTag name) loc) →
        (⟨large, limit⟩ : Compiler).compile source = .error err := by
  have hsame : SameIfKnown ((⟨small, limit⟩ : Compiler).compile source)
      ((⟨large, limit⟩ : Compiler).compile source) := compile_sameIfKnown h source
  refine ⟨fun t ht => ?_, fun err herr hother => ?_⟩
  · rcases hsame with heq | ⟨err, herr, -⟩
    · rw [← heq, ht]
    · rw [ht] at herr
      cases herr
  · rcases hsame with heq | ⟨err', herr', name, loc, hname⟩
    · rw [← heq, herr]
    · rw [herr] at herr'
      cases herr'
      exact absurd hname (not_or.2 (hother name loc))

/-- A tag with the name of an end may be registered, and the end stays what it was. -/
theorem compile_of_extends_registered_end :
    let small : Registry := (default.withTag "if" transparent).registry
    let large : Registry := small.insert "endif" ⟨false, fun _ => pure ()⟩
    let source := "{% if %}x{% endif %}"
    let t : Template := ⟨[.tag ⟨"if", transparent, [], [], ⟨1, 1⟩⟩ (some [.text "x"])]⟩
    large.Extends small ∧ (⟨small, 1⟩ : Compiler).compile source = .ok t ∧
      (⟨large, 1⟩ : Compiler).compile source = .ok t ∧
      (⟨large, 1⟩ : Compiler).compile "\x7b\x7b \x7d\x7d" =
        .error (.grammar (.unexpected .literalOrName "end of expression") ⟨1, 4⟩) := by
  intro small large source t
  have hextends : large.Extends small := Registry.extends_insert rfl _
  have hcall : (⟨small, 1⟩ : Compiler).AcceptsCall ⟨"if", transparent, [], [], .start⟩ :=
    ⟨by decide, rfl, by simp, by simp⟩
  have hwritable : (⟨small, 1⟩ : Compiler).Writable []
      [.tag ⟨"if", transparent, [], [], .start⟩ (some [.text "x"])] :=
    .enclosing hcall (by simp) rfl (by decide) (.text (by decide) (by decide) (by simp) .nil) .nil
  have hsource : Node.writtenAll .preferDouble
      [.tag ⟨"if", transparent, [], [], .start⟩ (some [.text "x"])] =
        "{% if %}x{% endif %}".toList := rfl
  have hsmall := compile_eq_ok_iff_plan.2 (plan_writtenAll .preferDouble hwritable)
  rw [hsource, String.ofList_toList] at hsmall
  have hempty : Span.cut "\x7b\x7b \x7d\x7d" = [⟨.marker .expression, " ", .start⟩] := by
    have hcut := Span.cutFrom_marker (by decide : Marker.expression.ClosesOnce " ".toList) .start []
    rw [Span.cutFrom_nil] at hcut
    exact hcut
  have herror : (⟨small, 1⟩ : Compiler).compile "\x7b\x7b \x7d\x7d" =
      .error (.grammar (.unexpected .literalOrName "end of expression") ⟨1, 4⟩) := by
    rw [compile, hempty]
    rfl
  exact ⟨hextends, hsmall, (compile_of_extends hextends 1 source).1 t hsmall,
    (compile_of_extends hextends 1 _).2 _ herror (by simp)⟩

end Compiler

end TextTemplate
