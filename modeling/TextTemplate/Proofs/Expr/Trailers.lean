import TextTemplate.Proofs.Stream.Pushback
import TextTemplate.Proofs.TagHeader.Failure

/-!
# Trailers and what they follow

The trailers of an expression are read without looking at the expression. So the same trailers are
read whatever it is, and in their order they are put behind it; and if reading fails, it fails in
the same way. The reason is that what stands between brackets is an expression of its own. The loop
keeps the expression before an opening bracket at the bottom of its stack, and never looks at it
before it comes to the bracket that closes this one.

How many brackets lie around the expression does not matter either, except for the limit: what
counts is how many of them may still be opened.

This is why a tag header has one way to read a positional argument only. If a name was read to see
whether it is a keyword, the trailers that are read behind it make the same argument as an
expression that is read from the name on.

## Main definitions

* `Trailer`, `Expr.withTrailers`: trailers, and an expression with trailers behind it.
* `Trailer.Derives`: the tokens from which trailers are derived.
* `Scan.withLimit`: a result with another limit in the refusal of what is nested too deep.

## Main results

* `Expr.closesAlike`: what is read behind an opening bracket does not depend on what is before it.
* `Expr.trailsAlike`: the trailers do not depend on what they follow.
* `Expr.continueFrom_eq_withLimit`: brackets around an expression count like a lower limit.
* `Expr.parseTrailers_uniform`: all this for the reader of trailers.
-/

namespace TextTemplate

/-- A trailer of an expression. -/
inductive Trailer where
  /-- A name behind a point. -/
  | member (name : String)
  /-- A key between brackets. -/
  | item (key : Expr)

/-- An expression with a trailer behind it. -/
def Trailer.attach (base : Expr) : Trailer → Expr
  | .member name => .member base name
  | .item key => .item base key

/-- An expression with some trailers behind it, in their order. -/
def Expr.withTrailers (base : Expr) (trailers : List Trailer) : Expr :=
  trailers.foldl Trailer.attach base

/-- The tokens from which some trailers are derived, in their order. -/
inductive Trailer.Derives : List Token → List Trailer → Prop where
  | nil : Derives [] []
  | member {dot name : Token} {us : List Token} {trailers : List Trailer}
      (hdot : dot.kind = .operator .dot) (hname : name.kind = .name)
      (hrest : Derives us trailers) :
      Derives (dot :: name :: us) (.member name.text :: trailers)
  | item {left right : Token} {ks us : List Token} {key : Expr} {trailers : List Trailer}
      (hleft : left.kind = .operator .leftBracket) (hkey : Expr.Derives ks key)
      (hright : right.kind = .operator .rightBracket) (hrest : Derives us trailers) :
      Derives (left :: (ks ++ right :: us)) (.item key :: trailers)

namespace Expr

variable {limit depth : Nat} {stack keys keys' : List Expr} {base e e' key : Expr}
  {s s' s₁ s₂ : Stream} {t : Token} {us vs ws : List Token} {err : Error}

/-! ### Behind an opening bracket -/

/-- Behind an opening bracket, reading fails or comes to the bracket that closes it, with the same
outcome for all expressions before the bracket. The tokens `ws` have been taken behind it, and the
list holds the expressions before the brackets that are open within. -/
inductive ClosesAlike (limit depth : Nat) (keys : List Expr) (e : Expr) (s : Stream)
    (ws : List Token) : Prop where
  | fault {err : Error} {s' : Stream}
      (h : ∀ base, continueFrom limit depth (keys ++ [base]) e s = .error err s')
  | closed {us : List Token} {right : Token} {key : Expr} {s' : Stream}
      (hus : s.Takes (us ++ [right]) s') (hkey : Derives (ws ++ us) key)
      (hright : right.kind = .operator .rightBracket)
      (h : ∀ base, continueFrom limit depth (keys ++ [base]) e s =
        continueFrom limit depth [] (.item base key) s')

theorem ClosesAlike.prepend (hvs : s.Takes vs s')
    (h : ∀ base, continueFrom limit depth (keys ++ [base]) e s =
      continueFrom limit depth (keys' ++ [base]) e' s')
    (hrest : ClosesAlike limit depth keys' e' s' (ws ++ vs)) :
    ClosesAlike limit depth keys e s ws := by
  cases hrest with
  | fault hrest => exact .fault fun base => (h base).trans (hrest base)
  | @closed us right key s'' hus hkey hright hrest =>
    have hboth : s.Takes ((vs ++ us) ++ [right]) s'' := by
      rw [List.append_assoc]
      exact Stream.takes_append_iff.2 ⟨s', hvs, hus⟩
    rw [List.append_assoc] at hkey
    exact .closed hboth hkey hright fun base => (h base).trans (hrest base)

/-- What is read behind an opening bracket does not depend on the expression before it. The loop is
followed as if the key were read for itself, with one bracket more around it. -/
theorem closesAlike (hws : Unfinished limit (depth + 1) keys e ws) :
    ClosesAlike limit depth keys e s ws := by
  have hlength (keys : List Expr) (base : Expr) :
      depth + (keys ++ [base]).length = depth + 1 + keys.length := by
    rw [List.length_append, List.length_singleton]
    omega
  fun_induction continueFrom limit (depth + 1) keys e s generalizing ws with
  | case1 keys e s err s' hnext => exact .fault fun _ => continueFrom_of_error hnext
  | case2 e s t s₁ hnext keys hdot err s' hname =>
    exact .fault fun _ => continueFrom_dot_of_error hnext hdot hname
  | case3 e s t s₁ hnext keys hdot name s₂ hname hkind ih =>
    have hus : s.Takes [t, name] s₂ := .cons hnext (by simp [Token.isEnd, hdot])
      (.cons hname (by simp [Token.isEnd, hkind]) .nil)
    exact (ih (hws.extend (fun us hus => .member hus hdot hkind) hws.depth_le)).prepend hus
      fun _ => continueFrom_dot hnext hdot hname hkind
  | case4 e s t s₁ hnext keys hdot name s₂ hname hkind =>
    exact .fault fun _ => continueFrom_dot_of_ne_name hnext hdot hname hkind
  | case5 e s t s₁ hnext keys hleft hdepth =>
    exact .fault fun base =>
      continueFrom_leftBracket_of_le hnext hleft ((hlength keys base).symm ▸ hdepth)
  | case6 e s t s₁ hnext keys hleft hdepth err s' hfirst =>
    exact .fault fun base => continueFrom_leftBracket_of_error hnext hleft
      ((hlength keys base).symm ▸ Nat.not_le.1 hdepth) hfirst
  | case7 e s t s₁ hnext keys hleft hdepth first s₂ hfirst hend =>
    exact .fault fun base => continueFrom_leftBracket_of_isEnd hnext hleft
      ((hlength keys base).symm ▸ Nat.not_le.1 hdepth) hfirst hend
  | case8 e s t s₁ hnext keys hleft hdepth first s₂ hfirst hend cause hatom =>
    exact .fault fun base => continueFrom_leftBracket_of_atom_error hnext hleft
      ((hlength keys base).symm ▸ Nat.not_le.1 hdepth) hfirst hend hatom
  | case9 e s t s₁ hnext keys hleft hdepth first s₂ hfirst hend key hatom ih =>
    have hus : s.Takes [t, first] s₂ := .cons hnext (by simp [Token.isEnd, hleft])
      (.cons hfirst (isEnd_eq_false_of_atom hatom) .nil)
    have hkeyDepth : depth + 1 + (keys.length + 1) + key.bracketDepth ≤ limit := by
      rw [bracketDepth_of_atom hatom]
      omega
    exact (ih (.inside hws hleft (.atom hatom) hkeyDepth)).prepend hus fun base =>
      continueFrom_leftBracket hnext hleft ((hlength keys base).symm ▸ Nat.not_le.1 hdepth) hfirst
        hatom
  | case10 e s t s₁ hnext base' keys hright ih =>
    have hus : s.Takes [t] s₁ := .cons hnext (by simp [Token.isEnd, hright]) .nil
    exact (ih (hws.close hright)).prepend hus fun _ => continueFrom_rightBracket hnext hright
  | case11 e s t s₁ hnext base' keys hdot hleft hright =>
    exact .fault fun _ => continueFrom_of_ne_rightBracket hnext hdot hleft hright
  | case12 e s t s₁ hnext hdot hleft =>
    by_cases hright : t.kind = .operator .rightBracket
    · -- no bracket is open within, so this one closes the bracket in front of the key
      cases hws with
      | outside hderives _ =>
        have hus : s.Takes ([] ++ [t]) s₁ := .cons hnext (by simp [Token.isEnd, hright]) .nil
        exact .closed hus ((List.append_nil ws).symm ▸ hderives) hright
          fun _ => continueFrom_rightBracket hnext hright
    · exact .fault fun _ => continueFrom_of_ne_rightBracket hnext hdot hleft hright

/-! ### Trailers -/

/-- Reading trailers fails, or it takes the tokens of some trailers and puts these behind the
expression, with the same outcome for all expressions. -/
inductive TrailsAlike (limit depth : Nat) (s : Stream) : Prop where
  | fault {err : Error} {s' : Stream}
      (h : ∀ base, parseTrailers limit depth base s = .error err s')
  | read {us : List Token} {trailers : List Trailer} {s₁ s' : Stream} (hus : s.Takes us s₁)
      (hderives : Trailer.Derives us trailers) (hhalts : Halts s₁ s')
      (h : ∀ base, parseTrailers limit depth base s = .ok (base.withTrailers trailers) s')

/-- One trailer more in front of the others. -/
theorem TrailsAlike.prepend (trailer : Trailer) (hvs : s.Takes vs s')
    (hderives : ∀ us trailers, Trailer.Derives us trailers →
      Trailer.Derives (vs ++ us) (trailer :: trailers))
    (h : ∀ base, parseTrailers limit depth base s =
      parseTrailers limit depth (trailer.attach base) s')
    (hrest : TrailsAlike limit depth s') : TrailsAlike limit depth s := by
  cases hrest with
  | fault hrest => exact .fault fun base => (h base).trans (hrest _)
  | read hus hrestDerives hhalts hrest =>
    exact .read (Stream.takes_append_iff.2 ⟨s', hvs, hus⟩) (hderives _ _ hrestDerives) hhalts
      fun base => (h base).trans (hrest _)

/-- A point is followed by a name and by further trailers. -/
theorem trailsAlike_dot (hnext : s.next = .ok t s₁) (hdot : t.kind = .operator .dot)
    (ih : ∀ s' : Stream, s'.size < s.size → TrailsAlike limit depth s') :
    TrailsAlike limit depth s := by
  cases hname : s₁.next with
  | error err s' => exact .fault fun _ => continueFrom_dot_of_error hnext hdot hname
  | ok name s₂ =>
    by_cases hkind : name.kind = .name
    · have hus : s.Takes [t, name] s₂ := .cons hnext (by simp [Token.isEnd, hdot])
        (.cons hname (by simp [Token.isEnd, hkind]) .nil)
      have hsize := hus.length_add_size_le
      exact (ih s₂ (Nat.lt_of_lt_of_le (by simp) hsize)).prepend (.member name.text) hus
        (fun _ _ hrest => .member hdot hkind hrest) fun _ => continueFrom_dot hnext hdot hname hkind
    · exact .fault fun _ => continueFrom_dot_of_ne_name hnext hdot hname hkind

/-- A bracket is followed by a key, by the closing bracket and by further trailers. -/
theorem trailsAlike_leftBracket (hnext : s.next = .ok t s₁)
    (hleft : t.kind = .operator .leftBracket)
    (ih : ∀ s' : Stream, s'.size < s.size → TrailsAlike limit depth s') :
    TrailsAlike limit depth s := by
  by_cases hdepth : limit ≤ depth
  · exact .fault fun _ => continueFrom_leftBracket_of_le hnext hleft hdepth
  have hlt : depth + ([] : List Expr).length < limit := Nat.not_le.1 hdepth
  cases hfirst : s₁.next with
  | error err s' => exact .fault fun _ => continueFrom_leftBracket_of_error hnext hleft hlt hfirst
  | ok first s₂ =>
    by_cases hend : first.isEnd = true
    · exact .fault fun _ => continueFrom_leftBracket_of_isEnd hnext hleft hlt hfirst hend
    cases hatom : atom first with
    | error cause =>
      exact .fault fun _ =>
        continueFrom_leftBracket_of_atom_error hnext hleft hlt hfirst hend hatom
    | ok key₀ =>
      have hstart : Unfinished limit (depth + 1) [] key₀ [first] := by
        refine .outside (.atom hatom) ?_
        rw [bracketDepth_of_atom hatom]
        exact hlt
      have hloop (base : Expr) : parseTrailers limit depth base s =
          continueFrom limit depth [base] key₀ s₂ :=
        continueFrom_leftBracket hnext hleft hlt hfirst hatom
      cases closesAlike (s := s₂) hstart with
      | fault hfault => exact .fault fun base => (hloop base).trans (hfault base)
      | @closed us right key s₃ hkeyTakes hkey hright hclosed =>
        have hus : s.Takes (t :: first :: (us ++ [right])) s₃ :=
          .cons hnext (by simp [Token.isEnd, hleft]) (.cons hfirst (by simpa using hend) hkeyTakes)
        have hsize := hus.length_add_size_le
        refine (ih s₃ (Nat.lt_of_lt_of_le (by simp) hsize)).prepend (.item key) hus
          (fun vs trailers hrest => ?_) fun base => (hloop base).trans (hclosed base)
        have hitem : Trailer.Derives (t :: (([first] ++ us) ++ right :: vs))
            (.item key :: trailers) := .item hleft hkey hright hrest
        simpa using hitem

/-- The trailers that are read do not depend on what they follow. -/
theorem trailsAlike (limit depth : Nat) (s : Stream) : TrailsAlike limit depth s := by
  -- each trailer leaves a smaller stream, and the loop starts anew there with another expression
  induction hsize : s.size using Nat.strongRecOn generalizing s with
  | ind n ih =>
    subst hsize
    have ih' (s' : Stream) (hs' : s'.size < s.size) : TrailsAlike limit depth s' :=
      ih s'.size hs' s' rfl
    cases hnext : s.next with
    | error err s' => exact .fault fun _ => continueFrom_of_error hnext
    | ok t s₁ =>
      by_cases hdot : t.kind = .operator .dot
      · exact trailsAlike_dot hnext hdot ih'
      · by_cases hleft : t.kind = .operator .leftBracket
        · exact trailsAlike_leftBracket hnext hleft ih'
        · have hstop : ¬ StartsTrailer t := not_or.2 ⟨hdot, hleft⟩
          exact .read .nil .nil ⟨t, s₁, hnext, hstop, rfl⟩ fun _ => continueFrom_stop hnext hstop

end Expr

/-! ### The limit -/

/-- The cause with another limit, if something is nested too deep. -/
def GrammarError.withLimit (limit : Nat) : GrammarError → GrammarError
  | .nestingTooDeep _ => .nestingTooDeep limit
  | cause => cause

/-- The error with another limit, if something is nested too deep. -/
def Error.withLimit (limit : Nat) : Error → Error
  | .grammar cause loc => .grammar (cause.withLimit limit) loc
  | err => err

/-- The result of a reader, with another limit if it refuses what is nested too deep. -/
def Scan.withLimit {α : Type} (limit : Nat) :
    EStateM.Result Error Stream α → EStateM.Result Error Stream α
  | .ok a s => .ok a s
  | .error err s => .error (err.withLimit limit) s

theorem Scan.withLimit_fail {α : Type} (limit : Nat) (cause : GrammarError) (t : Token)
    (s : Stream) : withLimit limit (Stream.fail (α := α) cause t s) =
      Stream.fail (cause.withLimit limit) t s :=
  rfl

theorem Scan.withLimit_unexpected {α : Type} (limit : Nat) (expected : Expectation) (t : Token)
    (s : Stream) : withLimit limit (Stream.unexpected (α := α) expected t s) =
      Stream.unexpected expected t s :=
  rfl

/-- Where no token stands, the error has nothing to do with the limit. -/
theorem Error.withLimit_of_next {s s' : Stream} {err : Error} (limit : Nat)
    (h : s.next = .error err s') : err.withLimit limit = err := by
  obtain ⟨cause, loc, rfl⟩ := Stream.exists_lexical_of_next h
  rfl

namespace Expr

theorem withLimit_of_atom {t : Token} {cause : GrammarError} (limit : Nat)
    (h : atom t = .error cause) : cause.withLimit limit = cause := by
  unfold atom at h
  split at h
  · cases h
  · split at h <;> cases h
    rfl
  · cases h
  · cases h
    rfl
  · cases h
    rfl

/-- Brackets around an expression count like a lower limit. They are no more than an addend where
the loop compares the number of open brackets with the limit. -/
theorem continueFrom_eq_withLimit (limit depth : Nat) (stack : List Expr) (e : Expr) (s : Stream) :
    continueFrom limit depth stack e s =
      Scan.withLimit limit (continueFrom (limit - depth) 0 stack e s) := by
  have hlt {n : Nat} (h : ¬ limit ≤ depth + n) : 0 + n < limit - depth := by omega
  fun_induction continueFrom limit depth stack e s with
  | case1 stack e s err s' hnext =>
    rw [continueFrom_of_error hnext, Scan.withLimit, Error.withLimit_of_next limit hnext]
  | case2 e s t s₁ hnext stack hdot err s' hname =>
    rw [continueFrom_dot_of_error hnext hdot hname, Scan.withLimit,
      Error.withLimit_of_next limit hname]
  | case3 e s t s₁ hnext stack hdot name s₂ hname hkind ih =>
    rw [continueFrom_dot hnext hdot hname hkind]
    exact ih
  | case4 e s t s₁ hnext stack hdot name s₂ hname hkind =>
    rw [continueFrom_dot_of_ne_name hnext hdot hname hkind, Scan.withLimit_unexpected]
  | case5 e s t s₁ hnext stack hleft hdepth =>
    have hdepth' : limit - depth ≤ 0 + stack.length := by omega
    rw [continueFrom_leftBracket_of_le hnext hleft hdepth', Scan.withLimit_fail,
      GrammarError.withLimit]
  | case6 e s t s₁ hnext stack hleft hdepth err s' hfirst =>
    rw [continueFrom_leftBracket_of_error hnext hleft (hlt hdepth) hfirst, Scan.withLimit,
      Error.withLimit_of_next limit hfirst]
  | case7 e s t s₁ hnext stack hleft hdepth first s₂ hfirst hend =>
    rw [continueFrom_leftBracket_of_isEnd hnext hleft (hlt hdepth) hfirst hend, Scan.withLimit_fail]
    rfl
  | case8 e s t s₁ hnext stack hleft hdepth first s₂ hfirst hend cause hatom =>
    rw [continueFrom_leftBracket_of_atom_error hnext hleft (hlt hdepth) hfirst hend hatom,
      Scan.withLimit_fail, withLimit_of_atom limit hatom]
  | case9 e s t s₁ hnext stack hleft hdepth first s₂ hfirst hend key hatom ih =>
    rw [continueFrom_leftBracket hnext hleft (hlt hdepth) hfirst hatom]
    exact ih
  | case10 e s t s₁ hnext base stack hright ih =>
    rw [continueFrom_rightBracket hnext hright]
    exact ih
  | case11 e s t s₁ hnext base stack hdot hleft hright =>
    rw [continueFrom_of_ne_rightBracket hnext hdot hleft hright, Scan.withLimit_unexpected]
  | case12 e s t s₁ hnext hdot hleft =>
    rw [continueFrom_stop hnext (not_or.2 ⟨hdot, hleft⟩), Scan.withLimit]

/-- Reading trailers is uniform in the expression before them and in the depth. First, whatever the
expression is, reading fails in the same way, or the same trailers are put behind it, in the order
of their tokens, and the stream is left alike. Second, with `depth` brackets around them the outcome
is that of a limit which is lower by as many, up to the limit that a refusal names. Third, an
expression that begins with a name is the variable with the trailers that follow, also if the token
behind the name was pushed back. So, fourth, every argument of a tag that is no keyword argument is
read as an expression from its first token on. -/
theorem parseTrailers_uniform (limit depth : Nat) (s : Stream) :
    ((∃ err s', ∀ base, parseTrailers limit depth base s = .error err s') ∨
      ∃ us trailers s₁ s', s.Takes us s₁ ∧ Trailer.Derives us trailers ∧ Halts s₁ s' ∧
        ∀ base : Expr, parseTrailers limit depth base s = .ok (base.withTrailers trailers) s') ∧
    (∀ base, parseTrailers limit depth base s =
      Scan.withLimit limit (parseTrailers (limit - depth) 0 base s)) ∧
    (∀ t s₁, s.next = .ok t s₁ → t.kind = .name →
      parse limit s = parseTrailers limit 0 (.lookup t.text) s₁ ∧
      ∀ follower s₂, s₁.next = .ok follower s₂ →
        parseTrailers limit 0 (.lookup t.text) (s₂.unread follower) = parse limit (s₁.unread t)) ∧
    ∀ t s₁, s.next = .ok t s₁ → t.isEnd = false → t.kind ≠ .operator .comma →
      (t.kind = .name →
        ∀ follower s₂, s₁.next = .ok follower s₂ → follower.isOperator .equal = false) →
      TagHeader.arguments limit s = TagHeader.positional limit (s₁.unread t) := by
  refine ⟨?_, fun base => continueFrom_eq_withLimit limit depth [] base s,
    fun t s₁ hnext hname => ⟨parse_of_name hnext hname, fun follower s₂ hfollower => ?_⟩,
    fun t s₁ => TagHeader.arguments_eq_positional⟩
  · cases trailsAlike limit depth s with
    | fault h => exact Or.inl ⟨_, _, h⟩
    | read hus hderives hhalts h => exact Or.inr ⟨_, _, _, _, hus, hderives, hhalts, h⟩
  · have hunread : (s₁.unread t).next = .ok t s₁ := rfl
    rw [parseTrailers_unread hfollower, parse_of_name hunread hname]

/-- The name and the bracket behind it are looked at before the argument is read. -/
theorem parseTrailers_uniform_index :
    ∃ t s₁ follower s₂, (Stream.ofContent "a[b] c" .start).next = .ok t s₁ ∧ t.kind = .name ∧
      s₁.next = .ok follower s₂ ∧ follower.kind = .operator .leftBracket ∧
      parse 1 (Stream.ofContent "a[b] c" .start) = parseTrailers 1 0 (.lookup t.text) s₁ ∧
      parseTrailers 1 0 (.lookup t.text) (s₂.unread follower) = parse 1 (s₁.unread t) ∧
      TagHeader.arguments 1 (Stream.ofContent "a[b] c" .start) =
        TagHeader.positional 1 (s₁.unread t) := by
  obtain ⟨t, s₁, follower, s₂, hnext, hname, hfollower, hkind⟩ :
      ∃ t s₁ follower s₂, (Stream.ofContent "a[b] c" .start).next = .ok t s₁ ∧ t.kind = .name ∧
        s₁.next = .ok follower s₂ ∧ follower.kind = .operator .leftBracket :=
    ⟨_, _, _, _, rfl, rfl, rfl, rfl⟩
  obtain ⟨-, -, hlookup, hargs⟩ := parseTrailers_uniform 1 0 (Stream.ofContent "a[b] c" .start)
  obtain ⟨hparse, hunread⟩ := hlookup t s₁ hnext hname
  refine ⟨t, s₁, follower, s₂, hnext, hname, hfollower, hkind, hparse,
    hunread follower s₂ hfollower,
    hargs t s₁ hnext (by simp [Token.isEnd, hname]) (by simp [hname]) ?_⟩
  intro _ follower' s₂' hfollower'
  rw [hfollower] at hfollower'
  cases hfollower'
  simp [Token.isOperator, hkind]

end Expr

end TextTemplate
