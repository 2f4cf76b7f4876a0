import TextTemplate.Proofs.Expr.Failure
import TextTemplate.Proofs.TagHeader.Recognition

/-!
# Where tag headers fail

The arguments of a tag may end wherever one of them could begin. So what has been read of a header
can always be completed: by the name of the tag if there is none, and else by what completes the
argument at hand, or by nothing if there is none at hand.

An argument is read as an expression and then the arguments behind it. The end of the expression is
only seen from the next token, and whether a name is a keyword from the token behind the name. Both
tokens come first where the reader goes on, so a failure further on leaves them as they are.

## Main definitions

* `TagHeader.argumentsBehind`, `TagHeader.positional`: reads the arguments behind a given one, and a
  positional argument with those behind it.
* `TagHeader.ArgumentsFail`: how the reader of arguments fails.

## Main results

* `TagHeader.arguments_eq_positional`: an argument that is no keyword argument is an expression.
* `TagHeader.argumentsFail_of_arguments`: where reading arguments fails.
* `TagHeader.exists_failsBehind_of_parse`: where reading a header fails.
-/

namespace TextTemplate

namespace TagHeader

variable {limit : Nat} {s s' s₁ s₂ : Stream} {t n : Token} {e a : Expr} {v w : Word}
  {cause : GrammarError} {err : Error} {argument : Argument}

/-! ### One argument, and those behind it -/

/-- Reads the arguments behind a given one. -/
def argumentsBehind (limit : Nat) (argument : Argument) : Scan (List Argument) := do
  return argument :: (← arguments limit)

theorem argumentsBehind_eq (limit : Nat) (argument : Argument) (s : Stream) :
    argumentsBehind limit argument s = andThen argument (arguments limit s) := by
  simp only [argumentsBehind, bind, EStateM.bind]
  cases arguments limit s <;> rfl

/-- The arguments behind an expression are read if it is read. -/
theorem bind_argumentsBehind {f : Scan Expr} {argument : Expr → Argument}
    {result : EStateM.Result Error Stream (List Argument)}
    (herror : ∀ err s₁, f s = .error err s₁ → result = .error err s₁)
    (hok : ∀ e s₁, f s = .ok e s₁ → result = andThen (argument e) (arguments limit s₁)) :
    result = (f >>= fun e => argumentsBehind limit (argument e)) s := by
  cases hf : f s with
  | error err s₁ =>
    simp only [bind, EStateM.bind, hf]
    exact herror err s₁ hf
  | ok e s₁ =>
    simp only [bind, EStateM.bind, hf, argumentsBehind_eq]
    exact hok e s₁ hf

/-- Only what the stream delivers next decides which arguments are read. -/
theorem arguments_congr (h : s.next = s'.next) : arguments limit s = arguments limit s' := by
  rw [arguments_eq, arguments_eq, h]

theorem ignoresLookahead_argumentsBehind (limit : Nat) (argument : Argument) :
    (argumentsBehind limit argument).IgnoresLookahead := by
  intro s t s₁ hnext hspent
  rw [argumentsBehind_eq, argumentsBehind_eq]
  congr 1
  cases ht : t.isEnd with
  | true =>
    rw [arguments_endMarker hnext ht]
    exact arguments_endMarker (hspent ht).next_eq rfl
  | false => exact arguments_congr hnext.symm

theorem readsAll_arguments (limit : Nat) : Scan.ReadsAll (arguments limit) [] := by
  intro s ts hs hts
  obtain rfl := List.map_eq_nil_iff.1 hts
  obtain ⟨t, s₁, hnext, ht, hspent⟩ := Stream.delivers_nil_iff.1 hs
  exact ⟨[], s₁, arguments_endMarker hnext ht, hspent.delivers⟩

theorem readsAll_pure {α : Type} (a : α) : Scan.ReadsAll (pure a) [] := by
  intro s ts hs hts
  obtain rfl := List.map_eq_nil_iff.1 hts
  exact ⟨a, s, rfl, hs⟩

theorem readsAll_argumentsBehind (limit : Nat) (argument : Argument) :
    (argumentsBehind limit argument).ReadsAll [] :=
  (readsAll_arguments limit).bind fun _ => readsAll_pure _

/-! ### One round of the loop -/

theorem goesOn_comma (hv : v.1 = .operator .comma) :
    Scan.GoesOn (arguments limit) [v] (fun _ => True) (arguments limit) := by
  intro s ts s' t s₁ hs hts _ _ _
  obtain ⟨comma, ts, s₂, hcomma, rfl, hs, hts⟩ := hs.exists_cons hts
  obtain rfl := hs.eq_of_nil hts
  exact arguments_comma hcomma hv

theorem goesOn_keyword (hv : v.1 = .name) (hw : w.1 = .operator .equal) :
    Scan.GoesOn (arguments limit) [v, w] (fun _ => True)
      (Expr.parse limit >>= fun e => argumentsBehind limit (.keyword v.2 e)) := by
  intro s ts s' t s₁ hs hts _ _ _
  obtain ⟨name, ts, s₂, hname, rfl, hs, hts⟩ := hs.exists_cons hts
  obtain ⟨equal, ts, s₃, hequal, rfl, hs, hts⟩ := hs.exists_cons hts
  obtain rfl := hs.eq_of_nil hts
  have hnameKind : name.kind = .name := hv
  have hequalKind : equal.isOperator .equal = true := decide_eq_true hw
  rw [arguments_eq]
  simp only [hname, hnameKind, hequal, if_pos hequalKind]
  refine bind_argumentsBehind (fun err s₁ h => ?_) fun e s₁ h => ?_
  · rw [h]
  · rw [h]
    rfl

/-- Reads an expression as a positional argument, and the arguments behind it. -/
def positional (limit : Nat) : Scan (List Argument) := do
  let e ← Expr.parse limit
  argumentsBehind limit (.positional e)

/-- An argument that is no keyword argument is read as an expression from its first token on, also
if this is a name. -/
theorem arguments_eq_positional (h : s.next = .ok t s₁) (hend : t.isEnd = false)
    (hcomma : t.kind ≠ .operator .comma)
    (hequal : t.kind = .name →
      ∀ follower s₂, s₁.next = .ok follower s₂ → follower.isOperator .equal = false) :
    arguments limit s = positional limit (s₁.unread t) := by
  by_cases hname : t.kind = .name
  · have hparse : Expr.parse limit (s₁.unread t) =
        Expr.parseTrailers limit 0 (.lookup t.text) s₁ := Expr.parse_of_name rfl hname
    rw [positional, arguments_eq]
    simp only [h, hname]
    cases hfollower : s₁.next with
    | error err s' =>
      rw [Expr.parseTrailers, Expr.continueFrom_of_error hfollower] at hparse
      simp only [bind, EStateM.bind, hparse]
    | ok follower s₂ =>
      -- the token behind the name was pushed back, so the loop sees the same as before
      have hother := hequal hname follower s₂ hfollower
      simp only [hother, Bool.false_eq_true, if_false, Expr.parseTrailers_unread hfollower,
        ← hparse]
      refine bind_argumentsBehind (fun err s₃ h₁ => ?_) fun e s₃ h₁ => ?_ <;> rw [h₁]
  · have hend' : t.kind ≠ .endMarker := mt Token.isEnd_iff.2 (by simp [hend])
    rw [positional, arguments_eq]
    simp only [h]
    refine bind_argumentsBehind (fun err s₂ h₁ => ?_) fun e s₂ h₁ => ?_ <;> rw [h₁]

/-- A token that begins an expression begins a positional argument, unless it is a name before an
equals sign. -/
theorem goesOn_positional (hatom : Expr.atom t = .ok a) :
    Scan.GoesOn (arguments limit) [t.word]
      (fun kind => t.kind = .name → kind ≠ .operator .equal)
      (Expr.continueFrom limit 0 [] a >>= fun e => argumentsBehind limit (.positional e)) := by
  intro s ts s' n s₁ hs hts hn _ hequal
  obtain ⟨u, ts, s₂, hnext, hu, hs, hts⟩ := hs.exists_cons hts
  obtain rfl := hs.eq_of_nil hts
  have hatom' : Expr.atom u = .ok a := (Expr.atom_congr hu).trans hatom
  have hcomma : u.kind ≠ .operator .comma := by
    intro hcomma
    simp [Expr.atom, hcomma] at hatom'
  have hother : u.kind = .name →
      ∀ follower s₃, s'.next = .ok follower s₃ → follower.isOperator .equal = false := by
    intro hname follower s₃ hfollower
    rw [hn] at hfollower
    cases hfollower
    have hkind : u.kind = t.kind := (Prod.mk.inj hu).1
    simpa [Token.isOperator] using hequal (hkind ▸ hname)
  have hparse : Expr.parse limit (s'.unread u) = Expr.continueFrom limit 0 [] a s' := by
    rw [Expr.parse_of_next (rfl : (s'.unread u).next = .ok u s'), hatom']
    rfl
  rw [arguments_eq_positional hnext (Expr.isEnd_eq_false_of_atom hatom') hcomma hother]
  simp only [positional, bind, EStateM.bind, hparse]

/-- A token that begins no argument is refused where an argument could begin. -/
theorem refuses_argument (hcomma : n.kind ≠ .operator .comma) (hatom : Expr.atom n = .error cause) :
    Scan.Refuses (arguments limit) [] n.word cause := by
  intro s ts s₁ t s' hs hts hnext ht hend
  obtain rfl := hs.eq_of_nil hts
  have hkind : t.kind = n.kind := (Prod.mk.inj ht).1
  have hatom' : Expr.atom t = .error cause := (Expr.atom_congr ht).trans hatom
  have hname : t.kind ≠ .name := by
    intro hname
    simp [Expr.atom, hname] at hatom'
  have hparse : Expr.parse limit (s'.unread t) =
      .error (.grammar cause (s'.locationOf t.start)) s' := by
    rw [Expr.parse_of_next (rfl : (s'.unread t).next = .ok t s'), hatom']
    rfl
  refine ⟨s', ?_⟩
  rw [arguments_eq_positional hnext hend (hkind ▸ hcomma) fun hname' => absurd hname' hname]
  simp only [positional, bind, EStateM.bind, hparse]

/-! ### Where reading arguments fails -/

/-- The reader of arguments fails behind some tokens, and if it has taken none, nothing is needed to
complete what has been read. -/
def ArgumentsFail (limit : Nat) (s : Stream) (err : Error) : Prop :=
  ∃ us ws, Scan.FailsBehind (arguments limit) s us ws err ∧ (us = [] → ws = [])

/-- What fails behind some tokens that are taken fails from the start. -/
theorem ArgumentsFail.prepend {f : Scan (List Argument)} {P : Token.Kind → Prop}
    {vs us : List Token} {ws : List Word} (hfails : f.FailsBehind s' us ws err)
    (hgo : Scan.GoesOn (arguments limit) (vs.map Token.word) P f) (hvs : s.Takes vs s')
    (hne : vs ≠ []) (hnext : ∀ t s₁, s'.next = .ok t s₁ → P t.kind)
    (hfirst : P (firstKind (us.map Token.word ++ ws))) : ArgumentsFail limit s err :=
  ⟨vs ++ us, ws, hfails.prepend hgo hvs hnext hfirst, by simp [hne]⟩

/-- A reader that takes the tokens of an expression and goes on with the arguments behind it fails
where they fail. -/
theorem exists_failsBehind_of_halts {f : Scan (List Argument)} {us : List Token} {s₃ : Stream}
    (hs₁ : s₁.pending = []) (hus : s₁.Takes us s₃) (hhalts : Expr.Halts s₃ s₂)
    (ih : ∀ s₃ : Stream, s₃.pending = [] → s₃.next = s₂.next → ArgumentsFail limit s₃ err)
    (hgo : f.GoesOn (us.map Token.word) Expr.EndsBefore (argumentsBehind limit argument)) :
    ∃ vs ws, f.FailsBehind s₁ vs ws err ∧ (vs = [] → ws = []) := by
  have hs₃ := hus.pending_eq_nil hs₁
  obtain ⟨vs, ws, hfails, hws⟩ := ih s₃ hs₃ (hhalts.next_eq hs₃).symm
  have hbehind : (argumentsBehind limit argument).FailsBehind s₃ vs ws err :=
    hfails.bind fun _ => readsAll_pure _
  have hends := hhalts.endsBefore
  have hfirst := hbehind.first hws Expr.endsBefore_endMarker hends
  exact ⟨us ++ vs, ws, hbehind.prepend hgo hus hends hfirst,
    fun hnil => hws (List.append_eq_nil_iff.1 hnil).2⟩

section

variable (hatom : Expr.atom t = .ok a) (hnext : s.next = .ok t s₁)
  (hequal : ∀ n s₂, s₁.next = .ok n s₂ → t.kind = .name → n.kind ≠ .operator .equal)
include hatom hnext hequal

theorem argumentsFail_positional {us : List Token} {ws : List Word}
    (h : Scan.FailsBehind
      (Expr.continueFrom limit 0 [] a >>= fun e => argumentsBehind limit (.positional e))
      s₁ us ws err) (hws : us = [] → ws = []) : ArgumentsFail limit s err :=
  .prepend h (goesOn_positional hatom)
    (.cons hnext (Expr.isEnd_eq_false_of_atom hatom) .nil : s.Takes [t] s₁) (List.cons_ne_nil _ _)
    hequal (h.first hws (fun _ => by decide) hequal)

/-- A failure within a positional argument. -/
theorem argumentsFail_of_trailers (h : Expr.continueFrom limit 0 [] a s₁ = .error err s') :
    ArgumentsFail limit s err := by
  obtain ⟨us, ws, hfails, hws⟩ := Expr.exists_failsBehind_of_continueFrom h
  exact argumentsFail_positional hatom hnext hequal
    (hfails.bind fun e => readsAll_argumentsBehind limit (.positional e)) hws

/-- A failure behind a positional argument. -/
theorem argumentsFail_behind_positional (hs₁ : s₁.pending = [])
    (h : Expr.continueFrom limit 0 [] a s₁ = .ok e s₂)
    (ih : ∀ s₃ : Stream, s₃.pending = [] → s₃.next = s₂.next → ArgumentsFail limit s₃ err) :
    ArgumentsFail limit s err := by
  have hfirst : Expr.Unfinished limit 0 [] a [t] :=
    .outside (.atom hatom) (by simp [Expr.bracketDepth_of_atom hatom])
  obtain ⟨us, s₃, hus, hderives, hdepth, hhalts⟩ := Expr.derives_of_continueFrom hfirst h
  have hgo := Expr.goesOn_trailers (g := fun e => argumentsBehind limit (.positional e)) hatom
    hderives (by simpa using hdepth) (ignoresLookahead_argumentsBehind limit (.positional e))
  obtain ⟨vs, ws, hfails, hws⟩ := exists_failsBehind_of_halts hs₁ hus hhalts ih hgo
  exact argumentsFail_positional hatom hnext hequal hfails hws

end

/-- A failure behind a keyword argument. -/
theorem argumentsFail_behind_keyword (hname : t.kind = .name) (hequal : n.kind = .operator .equal)
    (hs : s.Takes [t, n] s₁) (hs₁ : s₁.pending = []) (h : Expr.parse limit s₁ = .ok e s₂)
    (ih : ∀ s₃ : Stream, s₃.pending = [] → s₃.next = s₂.next → ArgumentsFail limit s₃ err) :
    ArgumentsFail limit s err := by
  obtain ⟨us, s₃, hus, hderives, hdepth, hhalts⟩ := Expr.parse_eq_ok_iff.1 h
  have hgo := Expr.goesOn_parse (g := fun e => argumentsBehind limit (.keyword t.text e)) hderives
    hdepth (ignoresLookahead_argumentsBehind limit (.keyword t.text e))
  obtain ⟨vs, ws, hfails, -⟩ := exists_failsBehind_of_halts hs₁ hus hhalts ih hgo
  exact .prepend hfails (goesOn_keyword hname hequal) hs (List.cons_ne_nil _ _)
    (fun _ _ _ => trivial) trivial

theorem eq_error_of_andThen (h : andThen argument (arguments limit s) = .error err s') :
    arguments limit s = .error err s' := by
  cases hrest : arguments limit s with
  | ok args s₁ =>
    rw [hrest] at h
    cases h
  | error err₁ s₁ =>
    rw [hrest] at h
    cases h
    rfl

theorem takes_keyword (hnext : s.next = .ok t s₁) (hname : t.kind = .name)
    (hfollower : s₁.next = .ok n s₂) (hequal : n.isOperator .equal = true) :
    s.Takes [t, n] s₂ := by
  have hkind : n.kind = .operator .equal := of_decide_eq_true hequal
  exact .cons hnext (by simp [Token.isEnd, hname])
    (.cons hfollower (by simp [Token.isEnd, hkind]) .nil)

theorem ne_equal_of_next (hfollower : s.next = .ok n s₁) (hequal : ¬ n.isOperator .equal = true) :
    ∀ u s₂, s.next = .ok u s₂ → t.kind = .name → u.kind ≠ .operator .equal := by
  intro u s₂ hu _
  rw [hfollower] at hu
  cases hu
  exact mt decide_eq_true hequal

/-- Reading arguments fails behind the tokens that have been taken. -/
theorem argumentsFail_of_arguments (h : arguments limit s = .error err s') :
    ∀ s₀ : Stream, s₀.pending = [] → s₀.next = s.next → ArgumentsFail limit s₀ err := by
  fun_induction arguments limit s with
  | case1 s err s' hnext =>
    cases h
    intro s₀ _ hs₀
    exact ⟨[], [], ⟨List.forall_mem_nil _, readsAll_arguments limit,
      .lexical .nil (hs₀.trans hnext)⟩, fun _ => rfl⟩
  | case2 => cases h
  | case3 s t s₁ hnext hcomma ih =>
    intro s₀ hpending hs₀
    rw [← hs₀] at hnext
    have hs₁ := Stream.pending_of_next hpending hnext
    obtain ⟨us, ws, hfails, -⟩ := ih h s₁ hs₁ rfl
    have hus : s₀.Takes [t] s₁ := .cons hnext (by simp [Token.isEnd, hcomma]) .nil
    exact .prepend hfails (goesOn_comma hcomma) hus (List.cons_ne_nil _ _) (fun _ _ _ => trivial)
      trivial
  | case4 s t s₁ hnext hname err s' hfollower =>
    cases h
    intro s₀ _ hs₀
    rw [← hs₀] at hnext
    have hus : s₀.Takes [t] s₁ := .cons hnext (by simp [Token.isEnd, hname]) .nil
    have hlookup := (Expr.readsAll_closing limit 0 [] (.lookup t.text)).bind fun e =>
      readsAll_argumentsBehind limit (.positional e)
    have hreads := hlookup.prepend (goesOn_positional (Expr.atom_of_name hname)) fun _ => by decide
    exact ⟨[t], [], ⟨List.forall_mem_nil _, hreads, .lexical hus hfollower⟩, fun _ => rfl⟩
  | case5 s t s₁ hnext hname follower s₂ hfollower hequal err s' hparse =>
    cases h
    intro s₀ _ hs₀
    rw [← hs₀] at hnext
    obtain ⟨us, ws, hfails⟩ := Expr.exists_failsBehind_of_parse hparse
    have hkind : follower.kind = .operator .equal := of_decide_eq_true hequal
    have hwhole := hfails.bind fun e => readsAll_argumentsBehind limit (.keyword t.text e)
    exact .prepend hwhole (goesOn_keyword hname hkind)
      (takes_keyword hnext hname hfollower hequal) (List.cons_ne_nil _ _) (fun _ _ _ => trivial)
      trivial
  | case6 s t s₁ hnext hname follower s₂ hfollower hequal e s₃ hparse ih =>
    intro s₀ hpending hs₀
    rw [← hs₀] at hnext
    have hus := takes_keyword hnext hname hfollower hequal
    exact argumentsFail_behind_keyword hname (of_decide_eq_true hequal) hus
      (hus.pending_eq_nil hpending) hparse (ih (eq_error_of_andThen h))
  | case7 s t s₁ hnext hname follower s₂ hfollower hequal err s' htrailers =>
    cases h
    intro s₀ _ hs₀
    rw [← hs₀] at hnext
    exact argumentsFail_of_trailers (Expr.atom_of_name hname) hnext
      (ne_equal_of_next hfollower hequal) ((Expr.continueFrom_congr hfollower).trans htrailers)
  | case8 s t s₁ hnext hname follower s₂ hfollower hequal e s₃ htrailers ih =>
    intro s₀ hpending hs₀
    rw [← hs₀] at hnext
    have hs₁ := Stream.pending_of_next hpending hnext
    exact argumentsFail_behind_positional (Expr.atom_of_name hname) hnext
      (ne_equal_of_next hfollower hequal) hs₁
      ((Expr.continueFrom_congr hfollower).trans htrailers) (ih (eq_error_of_andThen h))
  | case9 s t s₁ hnext err s' hparse hend hcomma hname =>
    cases h
    intro s₀ _ hs₀
    rw [← hs₀] at hnext
    rw [Expr.parse_of_next (rfl : (s₁.unread t).next = .ok t s₁)] at hparse
    cases hatom : Expr.atom t with
    | error cause =>
      rw [hatom] at hparse
      cases hparse
      exact ⟨[], [], ⟨List.forall_mem_nil _, readsAll_arguments limit,
        .refused .nil hnext fun _ _ => refuses_argument hcomma hatom⟩, fun _ => rfl⟩
    | ok a =>
      rw [hatom] at hparse
      exact argumentsFail_of_trailers hatom hnext (fun _ _ _ hname' => absurd hname' hname) hparse
  | case10 s t s₁ hnext e s₂ hparse hend hcomma hname ih =>
    intro s₀ hpending hs₀
    rw [← hs₀] at hnext
    have hs₁ := Stream.pending_of_next hpending hnext
    rw [Expr.parse_of_next (rfl : (s₁.unread t).next = .ok t s₁)] at hparse
    cases hatom : Expr.atom t with
    | error cause =>
      rw [hatom] at hparse
      cases hparse
    | ok a =>
      rw [hatom] at hparse
      exact argumentsFail_behind_positional hatom hnext (fun _ _ _ hname' => absurd hname' hname)
        hs₁ hparse (ih (eq_error_of_andThen h))

/-! ### Where reading headers fails -/

theorem parseArguments_eq_bind (limit : Nat) (name : String) :
    parseArguments limit name = arguments limit >>= fun args => pure (ofArguments name args) := by
  funext s
  simp only [parseArguments, Functor.map, EStateM.map, bind, EStateM.bind]
  cases arguments limit s <;> rfl

theorem parse_of_next (h : s.next = .ok t s₁) :
    parse limit s = if t.kind = .name then parseArguments limit t.text s₁
      else .error (.grammar (.unexpected .tagName t.describe) (s₁.locationOf t.start)) s₁ := by
  by_cases hname : t.kind = .name
  all_goals
    simp only [parse, parseName, bind, EStateM.bind, h, hname, if_true, if_false]
    rfl

theorem goesOn_tagName (hv : v.1 = .name) :
    Scan.GoesOn (parse limit) [v] (fun _ => True) (parseArguments limit v.2) := by
  intro s ts s' t s₁ hs hts _ _ _
  obtain ⟨name, ts, s₂, hname, rfl, hs, hts⟩ := hs.exists_cons hts
  obtain rfl := hs.eq_of_nil hts
  have hkind : name.kind = .name := hv
  rw [parse_of_next hname, if_pos hkind]
  rfl

theorem readsAll_tagName (hv : v.1 = .name) : Scan.ReadsAll (parse limit) [v] := by
  have hargs : Scan.ReadsAll (parseArguments limit v.2) [] := by
    rw [parseArguments_eq_bind]
    exact (readsAll_arguments limit).bind fun _ => readsAll_pure _
  exact hargs.prepend (goesOn_tagName hv) trivial

theorem refuses_tagName (hn : n.kind ≠ .name) :
    Scan.Refuses (parse limit) [] n.word (.unexpected .tagName n.describe) := by
  intro s ts s₁ t s' hs hts hnext ht _
  obtain rfl := hs.eq_of_nil hts
  have hkind : t.kind ≠ .name := (Prod.mk.inj ht).1 ▸ hn
  exact ⟨s', by rw [parse_of_next hnext, if_neg hkind, Token.describe_congr ht]⟩

/-- A text that is not a tag header fails where it cannot be completed to one. -/
theorem exists_failsBehind_of_parse (hs : s.pending = []) (h : parse limit s = .error err s') :
    ∃ us ws, Scan.FailsBehind (parse limit) s us ws err := by
  have hspells : ∀ w ∈ [Expr.anyName], Lexeme.Spells w.1 w.2.toList :=
    List.forall_mem_singleton.2 Expr.spells_anyName
  have hreads : Scan.ReadsAll (parse limit) [Expr.anyName] := readsAll_tagName rfl
  cases hnext : s.next with
  | error err₁ s₁ =>
    simp only [parse, parseName, bind, EStateM.bind, hnext] at h
    cases h
    exact ⟨[], [Expr.anyName], hspells, hreads, .lexical .nil hnext⟩
  | ok t s₁ =>
    rw [parse_of_next hnext] at h
    split at h
    · next hname =>
      have hs₁ := Stream.pending_of_next hs hnext
      rw [parseArguments_eq_bind] at h
      rcases Scan.bind_eq_error_iff.1 h with h | ⟨args, s₂, -, h⟩
      · obtain ⟨us, ws, hfails, -⟩ := argumentsFail_of_arguments h s₁ hs₁ rfl
        have hwhole : (parseArguments limit t.text).FailsBehind s₁ us ws err := by
          rw [parseArguments_eq_bind]
          exact hfails.bind fun _ => readsAll_pure _
        have hus : s.Takes [t] s₁ := .cons hnext (by simp [Token.isEnd, hname]) .nil
        exact ⟨_, ws, hwhole.prepend (goesOn_tagName hname) hus (fun _ _ _ => trivial) trivial⟩
      · cases h
    · next hname =>
      cases h
      exact ⟨[], [Expr.anyName], hspells, hreads,
        .refused .nil hnext fun _ _ => refuses_tagName hname⟩

end TagHeader

end TextTemplate
