import TextTemplate.Proofs.Plan.Matching
import TextTemplate.Proofs.TagHeader.Recognition

/-!
# Compiling with two limits

The limit on nesting is asked for at two places only: at an opening bracket and at a tag that has a
body. A compiler with a lower limit therefore does the same, step by step, as one with a higher
limit, up to the point where it refuses what is nested too deep for it. Nothing that is read later
can undo the refusal, so the results of the two are equal unless the first one is that refusal.

## Main definitions

* `Scan.SameWithin`, `Compiler.SameWithin`: two results are equal unless the first one is the
  refusal of what is nested too deep.

## Main results

* `Expr.parse_sameWithin`, `TagHeader.parseArguments_sameWithin`: reading with two limits.
* `Compiler.compile_sameWithin`: compiling with two limits.
-/

namespace TextTemplate

variable {n m : Nat}

namespace Scan

variable {α β : Type} {s : Stream} {low high : EStateM.Result Error Stream α}

/-- Two results of a reader are equal, unless the first one is the refusal of what is nested deeper
than the limit. -/
def SameWithin (limit : Nat) (low high : EStateM.Result Error Stream α) : Prop :=
  low = high ∨ ∃ loc s, low = .error (.grammar (.nestingTooDeep limit) loc) s

theorem SameWithin.refl : SameWithin n low low :=
  Or.inl rfl

/-- Whatever is read with the higher limit, the lower one may refuse. -/
theorem sameWithin_fail (t : Token) : SameWithin n (Stream.fail (.nestingTooDeep n) t s) high :=
  Or.inr ⟨_, _, rfl⟩

theorem SameWithin.eq_ok {a : α} (h : SameWithin n (.ok a s) high) : high = .ok a s := by
  rcases h with h | ⟨loc, s', h⟩
  · exact h.symm
  · cases h

theorem SameWithin.eq_error {err : Error} (h : SameWithin n (.error err s) high) :
    high = .error err s ∨ ∃ loc, err = .grammar (.nestingTooDeep n) loc := by
  rcases h with h | ⟨loc, s', h⟩
  · exact Or.inl h.symm
  · cases h
    exact Or.inr ⟨loc, rfl⟩

theorem SameWithin.bind {x y : Scan α} {f g : α → Scan β} (h : SameWithin n (x s) (y s))
    (hf : ∀ a s, SameWithin n (f a s) (g a s)) : SameWithin n ((x >>= f) s) ((y >>= g) s) := by
  simp only [Bind.bind, EStateM.bind]
  cases hx : x s with
  | ok a s₁ =>
    rw [hx] at h
    rw [h.eq_ok]
    exact hf a s₁
  | error err s₁ =>
    rw [hx] at h
    rcases h.eq_error with hy | ⟨loc, rfl⟩
    · rw [hy]
      exact .refl
    · exact Or.inr ⟨loc, s₁, rfl⟩

theorem SameWithin.map {x y : Scan α} (f : α → β) (h : SameWithin n (x s) (y s)) :
    SameWithin n ((f <$> x) s) ((f <$> y) s) := by
  rw [map_eq_pure_bind, map_eq_pure_bind]
  exact h.bind fun _ _ => .refl

end Scan

open Scan (SameWithin)

/-! ### Expressions -/

namespace Expr

theorem continueFrom_sameWithin (hle : n ≤ m) (depth : Nat) (stack : List Expr) (e : Expr)
    (s : Stream) :
    SameWithin n (continueFrom n depth stack e s) (continueFrom m depth stack e s) := by
  have hlt {k : Nat} (h : ¬ n ≤ depth + k) : depth + k < m :=
    Nat.lt_of_lt_of_le (Nat.not_le.1 h) hle
  fun_induction continueFrom n depth stack e s with
  | case1 stack e s err s' hnext =>
    rw [continueFrom_of_error hnext]
    exact .refl
  | case2 e s t s₁ hnext stack hdot err s' hname =>
    rw [continueFrom_dot_of_error hnext hdot hname]
    exact .refl
  | case3 e s t s₁ hnext stack hdot name s₂ hname hkind ih =>
    rw [continueFrom_dot hnext hdot hname hkind]
    exact ih
  | case4 e s t s₁ hnext stack hdot name s₂ hname hkind =>
    rw [continueFrom_dot_of_ne_name hnext hdot hname hkind]
    exact .refl
  | case5 e s t s₁ hnext stack hleft hdepth => exact Scan.sameWithin_fail t
  | case6 e s t s₁ hnext stack hleft hdepth err s' hfirst =>
    rw [continueFrom_leftBracket_of_error hnext hleft (hlt hdepth) hfirst]
    exact .refl
  | case7 e s t s₁ hnext stack hleft hdepth first s₂ hfirst hend =>
    rw [continueFrom_leftBracket_of_isEnd hnext hleft (hlt hdepth) hfirst hend]
    exact .refl
  | case8 e s t s₁ hnext stack hleft hdepth first s₂ hfirst hend cause hatom =>
    rw [continueFrom_leftBracket_of_atom_error hnext hleft (hlt hdepth) hfirst hend hatom]
    exact .refl
  | case9 e s t s₁ hnext stack hleft hdepth first s₂ hfirst hend key hatom ih =>
    rw [continueFrom_leftBracket hnext hleft (hlt hdepth) hfirst hatom]
    exact ih
  | case10 e s t s₁ hnext base stack hright ih =>
    rw [continueFrom_rightBracket hnext hright]
    exact ih
  | case11 e s t s₁ hnext base stack hdot hleft hright =>
    rw [continueFrom_of_ne_rightBracket hnext hdot hleft hright]
    exact .refl
  | case12 e s t s₁ hnext hdot hleft =>
    rw [continueFrom_stop hnext (not_or.2 ⟨hdot, hleft⟩)]
    exact .refl

theorem parse_sameWithin (hle : n ≤ m) (s : Stream) : SameWithin n (parse n s) (parse m s) := by
  refine SameWithin.bind .refl fun t s₁ => ?_
  cases atom t with
  | error cause => exact .refl
  | ok e => exact continueFrom_sameWithin hle 0 [] e s₁

end Expr

/-! ### Tag headers -/

namespace TagHeader

theorem andThen_sameWithin (a : Argument) {low high : EStateM.Result Error Stream (List Argument)}
    (h : SameWithin n low high) : SameWithin n (andThen a low) (andThen a high) := by
  rcases h with rfl | ⟨loc, s, rfl⟩
  · exact .refl
  · exact Or.inr ⟨loc, s, rfl⟩

theorem arguments_sameWithin (hle : n ≤ m) (s : Stream) :
    SameWithin n (arguments n s) (arguments m s) := by
  fun_induction arguments n s with
  | case1 s err s' hnext =>
    rw [arguments_eq]
    simp only [hnext]
    exact .refl
  | case2 s t s₁ hnext hend =>
    rw [arguments_eq]
    simp only [hnext, hend]
    exact .refl
  | case3 s t s₁ hnext hcomma ih =>
    rw [arguments_comma hnext hcomma]
    exact ih
  | case4 s t s₁ hnext hname err s' hfollower =>
    rw [arguments_eq]
    simp only [hnext, hname, hfollower]
    exact .refl
  | case5 s t s₁ hnext hname follower s₂ hfollower hequal err s' hparse =>
    have hsame := Expr.parse_sameWithin hle s₂
    rw [hparse] at hsame
    rcases hsame.eq_error with hparse' | ⟨loc, rfl⟩
    · rw [arguments_eq]
      simp only [hnext, hname, hfollower, if_pos hequal, hparse']
      exact .refl
    · exact Or.inr ⟨loc, s', rfl⟩
  | case6 s t s₁ hnext hname follower s₂ hfollower hequal e s₃ hparse ih =>
    have hsame := Expr.parse_sameWithin hle s₂
    rw [hparse] at hsame
    rw [arguments_eq m]
    simp only [hnext, hname, hfollower, if_pos hequal, hsame.eq_ok]
    exact andThen_sameWithin _ ih
  | case7 s t s₁ hnext hname follower s₂ hfollower hequal err s' htrailers =>
    have hsame := Expr.continueFrom_sameWithin hle 0 [] (.lookup t.text) (s₂.unread follower)
    rw [← Expr.parseTrailers, htrailers] at hsame
    rcases hsame.eq_error with htrailers' | ⟨loc, rfl⟩
    · rw [arguments_eq]
      simp only [hnext, hname, hfollower, if_neg hequal, Expr.parseTrailers, htrailers']
      exact .refl
    · exact Or.inr ⟨loc, s', rfl⟩
  | case8 s t s₁ hnext hname follower s₂ hfollower hequal e s₃ htrailers ih =>
    have hsame := Expr.continueFrom_sameWithin hle 0 [] (.lookup t.text) (s₂.unread follower)
    rw [← Expr.parseTrailers, htrailers] at hsame
    rw [arguments_eq m]
    simp only [hnext, hname, hfollower, if_neg hequal, Expr.parseTrailers, hsame.eq_ok]
    exact andThen_sameWithin _ ih
  | case9 s t s₁ hnext err s' hparse hend hcomma hname =>
    have hsame := Expr.parse_sameWithin hle (s₁.unread t)
    rw [hparse] at hsame
    rcases hsame.eq_error with hparse' | ⟨loc, rfl⟩
    · rw [arguments_eq]
      simp only [hnext, hparse']
      exact .refl
    · exact Or.inr ⟨loc, s', rfl⟩
  | case10 s t s₁ hnext e s₂ hparse hend hcomma hname ih =>
    have hsame := Expr.parse_sameWithin hle (s₁.unread t)
    rw [hparse] at hsame
    rw [arguments_eq m]
    simp only [hnext, hsame.eq_ok]
    exact andThen_sameWithin _ ih

theorem parseArguments_sameWithin (hle : n ≤ m) (name : String) (s : Stream) :
    SameWithin n (parseArguments n name s) (parseArguments m name s) :=
  (arguments_sameWithin hle s).map _

end TagHeader

/-! ### Templates -/

namespace Compiler

variable {α β : Type} {registry : Registry} {a : Assembly} {spans : List Span}

/-- Two results are equal, unless the first one is the refusal of what is nested deeper than the
limit. -/
def SameWithin (limit : Nat) (low high : Except Error α) : Prop :=
  low = high ∨ ∃ loc, low = .error (.grammar (.nestingTooDeep limit) loc)

theorem SameWithin.refl {x : Except Error α} : SameWithin n x x :=
  Or.inl rfl

theorem SameWithin.bind {x y : Except Error α} {f g : α → Except Error β} (h : SameWithin n x y)
    (hf : ∀ a, SameWithin n (f a) (g a)) : SameWithin n (x >>= f) (y >>= g) := by
  rcases h with rfl | ⟨loc, rfl⟩
  · cases x with
    | error err => exact .refl
    | ok a => exact hf a
  · exact Or.inr ⟨loc, rfl⟩

theorem readSpan_sameWithin {low high : Scan α} (span : Span)
    (h : Scan.SameWithin n (low span.stream) (high span.stream)) :
    SameWithin n (readSpan low span) (readSpan high span) := by
  unfold Span.stream at h
  unfold readSpan
  rcases h with heq | ⟨loc, s, hlow⟩
  · rw [heq]
    exact .refl
  · rw [hlow]
    exact Or.inr ⟨loc, rfl⟩

theorem wholeExpression_sameWithin (hle : n ≤ m) (s : Stream) :
    Scan.SameWithin n ((⟨registry, n⟩ : Compiler).wholeExpression s)
      ((⟨registry, m⟩ : Compiler).wholeExpression s) :=
  (Expr.parse_sameWithin hle s).bind fun _ _ => .refl

theorem openBlock_sameWithin (hle : n ≤ m) (a : Assembly) (loc : Location) (t : Token)
    (s : Stream) : Scan.SameWithin n ((⟨registry, n⟩ : Compiler).openBlock a loc t s)
      ((⟨registry, m⟩ : Compiler).openBlock a loc t s) := by
  unfold openBlock
  cases registry.get? t.text with
  | none => exact .refl
  | some handler =>
    by_cases hdeep : handler.hasBody = true ∧ n ≤ a.opened.length
    · simp only [if_pos hdeep]
      exact Scan.sameWithin_fail t
    · have hdeep' : ¬ (handler.hasBody = true ∧ m ≤ a.opened.length) :=
        fun h => hdeep ⟨h.1, Nat.le_trans hle h.2⟩
      simp only [if_neg hdeep, if_neg hdeep']
      exact (TagHeader.parseArguments_sameWithin hle t.text s).bind fun _ _ => .refl

theorem block_sameWithin (hle : n ≤ m) (a : Assembly) (loc : Location) (s : Stream) :
    Scan.SameWithin n ((⟨registry, n⟩ : Compiler).block a loc s)
      ((⟨registry, m⟩ : Compiler).block a loc s) := by
  refine Scan.SameWithin.bind .refl fun t s₁ => ?_
  by_cases hended : a.isEndedBy t.text = true
  · simp only [if_pos hended]
    exact .refl
  · simp only [if_neg hended]
    exact openBlock_sameWithin hle a loc t s₁

theorem step_sameWithin (hle : n ≤ m) (a : Assembly) (span : Span) :
    SameWithin n ((⟨registry, n⟩ : Compiler).step a span)
      ((⟨registry, m⟩ : Compiler).step a span) := by
  unfold step
  split
  · exact .refl
  · exact .refl
  · exact (readSpan_sameWithin span (wholeExpression_sameWithin hle _)).bind fun _ => .refl
  · exact readSpan_sameWithin span (block_sameWithin hle a _ _)

theorem run_sameWithin (hle : n ≤ m) (a : Assembly) (spans : List Span) :
    SameWithin n ((⟨registry, n⟩ : Compiler).run a spans)
      ((⟨registry, m⟩ : Compiler).run a spans) := by
  induction spans generalizing a with
  | nil => exact .refl
  | cons span spans ih =>
    rw [run, run, List.foldlM_cons, List.foldlM_cons]
    exact (step_sameWithin hle a span).bind ih

/-- The results of compiling with two limits are equal, unless the lower limit refuses something. -/
theorem compile_sameWithin (hle : n ≤ m) (source : String) :
    SameWithin n ((⟨registry, n⟩ : Compiler).compile source)
      ((⟨registry, m⟩ : Compiler).compile source) :=
  ((run_sameWithin hle .empty _).bind fun _ => .refl).bind fun _ => .refl

end Compiler

end TextTemplate
