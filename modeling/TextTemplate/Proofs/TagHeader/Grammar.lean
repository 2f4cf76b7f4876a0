import TextTemplate.Proofs.Expr.Grammar

/-!
# The grammar of tag headers

The arguments of a tag are derived from the list of their tokens: commas, which mean nothing,
keyword arguments and positional ones, in any order. No argument begins with an equals sign, a point
or a bracket, so a name before an equals sign can only be a keyword, and what continues an
expression can only belong to the argument before it. This is why one token of lookahead is enough.

## Main definitions

* `Argument.Derives`: some arguments and the tokens from which they are derived.
* `Argument.value`: the expression of an argument.

## Main results

* `Argument.Derives.starts`: how arguments begin.
* `TagHeader.arguments_of_derives`, `TagHeader.parse_of_derives`: what is derived is read.
-/

namespace TextTemplate

namespace Argument

/-- The expression of an argument. -/
def value : Argument → Expr
  | positional e => e
  | keyword _ e => e

/-- The tokens from which some arguments are derived. -/
inductive Derives : List Token → List Argument → Prop where
  | nil : Derives [] []
  | comma {t : Token} {ts : List Token} {arguments : List Argument}
      (ht : t.kind = .operator .comma) (hrest : Derives ts arguments) : Derives (t :: ts) arguments
  | keyword {t equal : Token} {us ts : List Token} {e : Expr} {arguments : List Argument}
      (ht : t.kind = .name) (hequal : equal.kind = .operator .equal) (he : Expr.Derives us e)
      (hrest : Derives ts arguments) :
      Derives (t :: equal :: (us ++ ts)) (.keyword t.text e :: arguments)
  | positional {us ts : List Token} {e : Expr} {arguments : List Argument}
      (he : Expr.Derives us e) (hrest : Derives ts arguments) :
      Derives (us ++ ts) (.positional e :: arguments)

/-- Arguments begin with a comma or with an atom. -/
theorem Derives.starts {ts : List Token} {arguments : List Argument} (h : Derives ts arguments) :
    ∀ t ∈ ts.head?, t.kind = .operator .comma ∨ ∃ a, Expr.atom t = .ok a := by
  intro t hhead
  cases h with
  | nil => simp at hhead
  | comma ht _ =>
    cases hhead
    exact Or.inl ht
  | keyword ht _ _ _ =>
    cases hhead
    exact Or.inr ⟨_, by rw [Expr.atom, ht]⟩
  | positional he _ =>
    obtain ⟨u, us', a, rfl, ha, -⟩ := he.eq_cons
    cases hhead
    exact Or.inr ⟨a, ha⟩

/-- An operator that is not a comma does not begin an argument. -/
theorem Derives.head_ne {ts : List Token} {arguments : List Argument} (h : Derives ts arguments)
    {op : Operator} (hop : op ≠ .comma) : ∀ t ∈ ts.head?, t.kind ≠ .operator op := by
  intro t hhead heq
  rcases h.starts t hhead with hcomma | ⟨a, ha⟩
  · rw [heq] at hcomma
    exact hop (Token.Kind.operator.inj hcomma)
  · simp [Expr.atom, heq] at ha

theorem Derives.stopsAt {ts : List Token} {arguments : List Argument} (h : Derives ts arguments) :
    Expr.StopsAt ts := fun t ht htrailer =>
  htrailer.elim (h.head_ne (by decide) t ht) (h.head_ne (by decide) t ht)

end Argument

namespace TagHeader

variable {limit : Nat} {s s₁ s₂ : Stream} {t n : Token} {e : Expr}

/-- One round of the loop, without the facts that show that it comes to an end. -/
theorem arguments_eq (limit : Nat) (s : Stream) :
    arguments limit s =
      match s.next with
      | .error err s => .error err s
      | .ok t s₁ =>
        match t.kind with
        | .endMarker => .ok [] s₁
        | .operator .comma => arguments limit s₁
        | .name =>
          match s₁.next with
          | .error err s => .error err s
          | .ok follower s₂ =>
            if follower.isOperator .equal then
              match Expr.parse limit s₂ with
              | .error err s => .error err s
              | .ok e s₃ => andThen (.keyword t.text e) (arguments limit s₃)
            else
              match Expr.parseTrailers limit 0 (.lookup t.text) (s₂.unread follower) with
              | .error err s => .error err s
              | .ok e s₃ => andThen (.positional e) (arguments limit s₃)
        | _ =>
          match Expr.parse limit (s₁.unread t) with
          | .error err s => .error err s
          | .ok e s₂ => andThen (.positional e) (arguments limit s₂) := by
  rw [arguments]
  split
  · next h => rw [h]
  · next h =>
    simp only [h]
    split
    · next ht => simp only [ht]
    · next ht => simp only [ht]
    · next ht =>
      simp only [ht]
      split
      · next h₁ => simp only [h₁]
      · next h₁ =>
        simp only [h₁]
        split <;> split <;> next h₂ => simp only [h₂]
    · split <;> next h₁ => split <;> simp_all

theorem arguments_endMarker (h : s.next = .ok t s₁) (ht : t.isEnd = true) :
    arguments limit s = .ok [] s₁ := by
  rw [arguments_eq]
  simp only [h, Token.isEnd_iff.1 ht]

theorem arguments_comma (h : s.next = .ok t s₁) (ht : t.kind = .operator .comma) :
    arguments limit s = arguments limit s₁ := by
  rw [arguments_eq]
  simp only [h, ht]

theorem arguments_keyword {s₃ : Stream} (h : s.next = .ok t s₁) (ht : t.kind = .name)
    (h₁ : s₁.next = .ok n s₂) (hn : n.kind = .operator .equal)
    (h₂ : Expr.parse limit s₂ = .ok e s₃) :
    arguments limit s = andThen (.keyword t.text e) (arguments limit s₃) := by
  have hequal : n.isOperator .equal = true := by simp [Token.isOperator, hn]
  rw [arguments_eq]
  simp only [h, ht, h₁, if_pos hequal, h₂]

/-- A name that is no keyword begins an expression, which is read from the name on. -/
theorem arguments_name {s₃ : Stream} (h : s.next = .ok t s₁) (ht : t.kind = .name)
    (h₁ : s₁.next = .ok n s₂) (hn : n.kind ≠ .operator .equal)
    (h₂ : Expr.continueFrom limit 0 [] (.lookup t.text) s₁ = .ok e s₃) :
    arguments limit s = andThen (.positional e) (arguments limit s₃) := by
  have hequal : ¬ n.isOperator .equal = true := by simp [Token.isOperator, hn]
  -- the token behind the name was pushed back, so the loop sees the same as before
  have hunread : Expr.parseTrailers limit 0 (.lookup t.text) (s₂.unread n) = .ok e s₃ := by
    rw [← h₂, Expr.parseTrailers]
    exact Expr.continueFrom_congr h₁.symm
  rw [arguments_eq]
  simp only [h, ht, h₁, if_neg hequal, hunread]

theorem arguments_literal (h : s.next = .ok t s₁) (ht : t.kind = .number ∨ t.kind = .string)
    (h₁ : Expr.parse limit (s₁.unread t) = .ok e s₂) :
    arguments limit s = andThen (.positional e) (arguments limit s₂) := by
  rw [arguments_eq]
  rcases ht with ht | ht <;> simp only [h, ht, h₁]

/-! ### Reading what is derived -/

/-- An atom is a name, a number or a string. -/
theorem kind_of_atom {a : Expr} (h : Expr.atom t = .ok a) :
    (t.kind = .name ∧ a = .lookup t.text) ∨ t.kind = .number ∨ t.kind = .string := by
  unfold Expr.atom at h
  split at h <;> simp_all

/-- The token behind an atom is no equals sign: it belongs to the expression, or it begins another
argument, or the text ends. -/
theorem kind_ne_equal_of_next {us ts : List Token} {args : List Argument}
    (hus : ∀ u ∈ us.head?, Expr.StartsTrailer u) (hts : Argument.Derives ts args)
    (hs : s.Delivers (us ++ ts) none) :
    ∃ n s', s.next = .ok n s' ∧ n.kind ≠ .operator .equal := by
  obtain ⟨n, s', hnext, hn⟩ := hs.exists_next
  refine ⟨n, s', hnext, fun hequal => ?_⟩
  rcases hn with hn | hn
  · cases us with
    | nil => exact hts.head_ne (by decide) n hn hequal
    | cons u us =>
      cases hn
      simpa [Expr.StartsTrailer, hequal] using hus n rfl
  · simp [Token.isEnd, hequal] at hn

/-- An expression that is derived from the first tokens is read as a positional argument. -/
theorem arguments_positional {us ts : List Token} {args : List Argument} (he : Expr.Derives us e)
    (hdepth : e.bracketDepth ≤ limit) (hts : Argument.Derives ts args)
    (hs : s.Delivers (us ++ ts) none) :
    ∃ s', arguments limit s = andThen (.positional e) (arguments limit s') ∧
      s'.Delivers ts none := by
  obtain ⟨t, us', a, rfl, ha, hus'⟩ := he.eq_cons
  obtain ⟨s₁, hnext, hend, hs₁⟩ := Stream.delivers_cons_iff.1 hs
  rcases kind_of_atom ha with ⟨ht, rfl⟩ | ht
  · -- the name has been read already, and the loop goes on behind it
    obtain ⟨s₂, hreach, hs₂⟩ := Expr.reaches_of_derives 0 [] he (by simpa using hdepth) hs
    obtain ⟨s₃, hloop, hs₃⟩ := Expr.continueFrom_of_stopsAt hs₂ hts.stopsAt
    obtain ⟨t', s₁', a', hnext', ha', hcont⟩ := hreach
    rw [hnext] at hnext'
    cases hnext'
    rw [ha] at ha'
    cases ha'
    obtain ⟨n, s₄, hnext₁, hn⟩ := kind_ne_equal_of_next hus' hts hs₁
    exact ⟨s₃, arguments_name hnext ht hnext₁ hn (hcont.trans hloop), hs₃⟩
  · obtain ⟨s₃, hparse, hs₃⟩ :=
      Expr.parse_eq_ok_of_derives he hdepth (hs₁.unread hend) hts.stopsAt
    exact ⟨s₃, arguments_literal hnext ht hparse, hs₃⟩

/-- The arguments that the tokens derive are read. -/
theorem arguments_of_derives {ts : List Token} {args : List Argument}
    (h : Argument.Derives ts args) (hdepth : ∀ a ∈ args, a.value.bracketDepth ≤ limit)
    (hs : s.Delivers ts none) : ∃ s', arguments limit s = .ok args s' := by
  induction h generalizing s with
  | nil =>
    obtain ⟨t, s', hnext, ht, -⟩ := Stream.delivers_nil_iff.1 hs
    exact ⟨s', arguments_endMarker hnext ht⟩
  | comma ht _ ih =>
    obtain ⟨s₁, hnext, -, hs₁⟩ := Stream.delivers_cons_iff.1 hs
    rw [arguments_comma hnext ht]
    exact ih hdepth hs₁
  | keyword ht hequal he hrest ih =>
    obtain ⟨hdepth₀, hdepth⟩ := List.forall_mem_cons.1 hdepth
    obtain ⟨s₁, hnext, -, hs₁⟩ := Stream.delivers_cons_iff.1 hs
    obtain ⟨s₂, hnext₁, -, hs₂⟩ := Stream.delivers_cons_iff.1 hs₁
    obtain ⟨s₃, hparse, hs₃⟩ := Expr.parse_eq_ok_of_derives he hdepth₀ hs₂ hrest.stopsAt
    obtain ⟨s', hargs⟩ := ih hdepth hs₃
    exact ⟨s', by rw [arguments_keyword hnext ht hnext₁ hequal hparse, hargs]; rfl⟩
  | positional he hrest ih =>
    obtain ⟨hdepth₀, hdepth⟩ := List.forall_mem_cons.1 hdepth
    obtain ⟨s₃, hread, hs₃⟩ := arguments_positional he hdepth₀ hrest hs
    obtain ⟨s', hargs⟩ := ih hdepth hs₃
    exact ⟨s', by rw [hread, hargs]; rfl⟩

/-- The header that a name and the tokens of some arguments derive is read. -/
theorem parse_of_derives {ts : List Token} {args : List Argument} (ht : t.kind = .name)
    (h : Argument.Derives ts args) (hdepth : ∀ a ∈ args, a.value.bracketDepth ≤ limit)
    (hs : s.Delivers (t :: ts) none) :
    ∃ s', parse limit s = .ok (ofArguments t.text args) s' := by
  obtain ⟨s₁, hnext, -, hs₁⟩ := Stream.delivers_cons_iff.1 hs
  obtain ⟨s', hargs⟩ := arguments_of_derives h hdepth hs₁
  refine ⟨s', Scan.bind_eq_ok_iff.2 ⟨t, s₁, Stream.parseName_eq_ok_iff.2 ⟨hnext, ht⟩, ?_⟩⟩
  simp only [parseArguments, Functor.map, EStateM.map, hargs]

end TagHeader

end TextTemplate
