import TextTemplate.Proofs.Expr.Recognition
import TextTemplate.Proofs.Stream.Failure

/-!
# Where expressions fail

An expression that is read up to some point can always be completed: behind a point or an opening
bracket by a name, and then by as many closing brackets as are open. So reading fails at the first
token that cannot stand there. What it reports then depends on the tokens so far, and not on what
follows, with one exception: a bracket behind which nothing follows.

## Main definitions

* `Expr.closing`: the words that close some brackets.
* `Scan.IgnoresLookahead`: it makes no difference to a reader whether a token has been looked at.

## Main results

* `Expr.exists_failsBehind_of_continueFrom`, `Expr.exists_failsBehind_of_parse`: where reading
  fails.
* `Expr.goesOn_parse`: what comes behind an expression is read as if the expression were not there.
* `Compiler.exists_failsBehind_of_wholeExpression`: where an expression that is a whole marker
  fails.
-/

namespace TextTemplate

/-! ### Readers see words only -/

theorem Token.describe_congr {t u : Token} (h : t.word = u.word) : t.describe = u.describe := by
  obtain ⟨hkind, htext⟩ := Prod.mk.inj h
  rw [describe, describe, isEnd, isEnd, hkind, htext]

/-- It makes no difference to a reader whether the next token has been looked at. -/
def Scan.IgnoresLookahead {α : Type} (f : Scan α) : Prop :=
  ∀ s t s₁, s.next = .ok t s₁ → (t.isEnd = true → s₁.IsSpent) →
    f (if t.isEnd then s₁ else s₁.unread t) = f s

namespace Expr

variable {α : Type} {limit depth : Nat} {stack : List Expr} {base e key a : Expr} {s s' s₁ : Stream}
  {t n : Token} {us : List Token} {v w : Word} {cause : GrammarError} {err : Error}
  {g : Expr → Scan α}

theorem atom_congr (h : t.word = n.word) : atom t = atom n := by
  obtain ⟨hkind, htext⟩ := Prod.mk.inj h
  simp only [atom, Token.describe_congr h, hkind, htext]

/-- Tokens that are written alike derive the same expressions. -/
theorem Derives.congr {ts : List Token} (h : Derives us e)
    (hts : ts.map Token.word = us.map Token.word) : Derives ts e := by
  induction h generalizing ts with
  | atom h =>
    obtain ⟨t, rfl, ht⟩ := List.map_eq_singleton_iff.1 hts
    exact .atom ((atom_congr ht).trans h)
  | @member _ _ dot name _ hdot hname ih =>
    rw [List.map_append] at hts
    obtain ⟨vs, xs, rfl, hvs, hxs⟩ := List.map_eq_append_iff.1 hts
    obtain ⟨dot', xs, rfl, hdot', hxs⟩ := List.map_eq_cons_iff.1 hxs
    obtain ⟨name', rfl, hname'⟩ := List.map_eq_singleton_iff.1 hxs
    obtain ⟨hdotKind, -⟩ := Prod.mk.inj hdot'
    obtain ⟨hnameKind, hnameText⟩ := Prod.mk.inj hname'
    rw [← hnameText]
    exact .member (ih hvs) (hdotKind.trans hdot) (hnameKind.trans hname)
  | item _ hleft _ hright ihbase ihkey =>
    rw [List.map_append] at hts
    obtain ⟨vs, xs, rfl, hvs, hxs⟩ := List.map_eq_append_iff.1 hts
    obtain ⟨left', xs, rfl, hleft', hxs⟩ := List.map_eq_cons_iff.1 hxs
    rw [List.map_append] at hxs
    obtain ⟨ks, rs, rfl, hks, hrs⟩ := List.map_eq_append_iff.1 hxs
    obtain ⟨right', rfl, hright'⟩ := List.map_eq_singleton_iff.1 hrs
    exact .item (ihbase hvs) ((Prod.mk.inj hleft').1.trans hleft) (ihkey hks)
      ((Prod.mk.inj hright').1.trans hright)

/-- Reading an expression is reading its first token and then the loop. -/
theorem parse_of_next (h : s.next = .ok t s₁) :
    parse limit s = match atom t with
      | .error cause => Stream.fail cause t s₁
      | .ok e => continueFrom limit 0 [] e s₁ := by
  cases hatom : atom t with
  | error cause => simp only [parse, bind, EStateM.bind, h, hatom]
  | ok e =>
    simp only [parse, bind, EStateM.bind, h, hatom]
    rfl

theorem atom_of_name (h : t.kind = .name) : atom t = .ok (.lookup t.text) := by
  rw [atom, h]

/-- An expression that begins with a name is the variable with the trailers that follow. -/
theorem parse_of_name (h : s.next = .ok t s₁) (ht : t.kind = .name) :
    parse limit s = parseTrailers limit 0 (.lookup t.text) s₁ := by
  rw [parse_of_next h, atom_of_name ht]
  rfl

/-- The trailers are the same after a look at the first token behind the expression. -/
theorem parseTrailers_unread (h : s.next = .ok t s₁) (base : Expr) :
    parseTrailers limit depth base (s₁.unread t) = parseTrailers limit depth base s :=
  continueFrom_congr h.symm

theorem isEnd_eq_false_of_atom (h : atom t = .ok a) : t.isEnd = false := by
  rw [Bool.eq_false_iff]
  exact mt Token.isEnd_iff.1 (kind_ne_endMarker_of_atom h)

/-! ### One round of the loop -/

theorem goesOn_atom (h : atom t = .ok a) :
    Scan.GoesOn (parse limit) [t.word] (fun _ => True) (continueFrom limit 0 [] a) := by
  intro s ts s' u s₁ hs hts _ _ _
  obtain ⟨first, ts, s₂, hnext, hfirst, hs, hts⟩ := hs.exists_cons hts
  obtain rfl := hs.eq_of_nil hts
  rw [parse_of_next hnext, atom_congr hfirst, h]

theorem goesOn_dot (hv : v.1 = .operator .dot) (hw : w.1 = .name) :
    Scan.GoesOn (continueFrom limit depth stack e) [v, w] (fun _ => True)
      (continueFrom limit depth stack (.member e w.2)) := by
  intro s ts s' t s₁ hs hts _ _ _
  obtain ⟨dot, ts, s₂, hdot, rfl, hs, hts⟩ := hs.exists_cons hts
  obtain ⟨name, ts, s₃, hname, rfl, hs, hts⟩ := hs.exists_cons hts
  obtain rfl := hs.eq_of_nil hts
  exact continueFrom_dot hdot hv hname hw

theorem goesOn_leftBracket (hdepth : depth + stack.length < limit)
    (hv : v.1 = .operator .leftBracket) (hw : ∀ t : Token, t.word = w → atom t = .ok key) :
    Scan.GoesOn (continueFrom limit depth stack e) [v, w] (fun _ => True)
      (continueFrom limit depth (e :: stack) key) := by
  intro s ts s' t s₁ hs hts _ _ _
  obtain ⟨left, ts, s₂, hleft, rfl, hs, hts⟩ := hs.exists_cons hts
  obtain ⟨first, ts, s₃, hnext, hfirst, hs, hts⟩ := hs.exists_cons hts
  obtain rfl := hs.eq_of_nil hts
  exact continueFrom_leftBracket hleft hv hdepth hnext (hw first hfirst)

theorem goesOn_rightBracket (hv : v.1 = .operator .rightBracket) :
    Scan.GoesOn (continueFrom limit depth (base :: stack) e) [v] (fun _ => True)
      (continueFrom limit depth stack (.item base e)) := by
  intro s ts s' t s₁ hs hts _ _ _
  obtain ⟨right, ts, s₂, hright, rfl, hs, hts⟩ := hs.exists_cons hts
  obtain rfl := hs.eq_of_nil hts
  exact continueFrom_rightBracket hright hv

/-! ### Completing -/

/-- The words that close some brackets. -/
def closing (n : Nat) : List Word :=
  List.replicate n (.ofOperator .rightBracket)

/-- Any name. It stands wherever an expression can be completed by a name. -/
def anyName : Word := .ofName "x"

theorem atom_of_word_eq_anyName (h : t.word = anyName) : atom t = .ok (.lookup anyName.2) := by
  obtain ⟨hkind, htext⟩ := Prod.mk.inj h
  simp only [atom, hkind, htext, anyName, Word.ofName]

theorem spells_anyName : Lexeme.Spells anyName.1 anyName.2.toList :=
  .name (by decide)

theorem spells_closing (n : Nat) : ∀ w ∈ closing n, Lexeme.Spells w.1 w.2.toList := by
  intro w hw
  rw [List.eq_of_mem_replicate hw]
  exact .operator .rightBracket

theorem spells_anyName_closing (n : Nat) :
    ∀ w ∈ anyName :: closing n, Lexeme.Spells w.1 w.2.toList :=
  List.forall_mem_cons.2 ⟨spells_anyName, spells_closing n⟩

/-- Closing all brackets completes what has been read. -/
theorem readsAll_closing (limit depth : Nat) (stack : List Expr) (e : Expr) :
    Scan.ReadsAll (continueFrom limit depth stack e) (closing stack.length) := by
  induction stack generalizing e with
  | nil =>
    intro s ts hs hts
    obtain rfl := List.map_eq_nil_iff.1 hts
    obtain ⟨s', hloop, hs'⟩ := continueFrom_of_stopsAt hs (by simp [StopsAt])
    exact ⟨e, s', hloop, hs'⟩
  | cons base stack ih => exact (ih (.item base e)).prepend (goesOn_rightBracket rfl) trivial

theorem readsAll_dot (hv : v.1 = .operator .dot) :
    Scan.ReadsAll (continueFrom limit depth stack e) (v :: anyName :: closing stack.length) :=
  (readsAll_closing limit depth stack (.member e anyName.2)).prepend (goesOn_dot hv rfl) trivial

theorem readsAll_leftBracket (hdepth : depth + stack.length < limit)
    (hv : v.1 = .operator .leftBracket) :
    Scan.ReadsAll (continueFrom limit depth stack e)
      (v :: anyName :: closing (stack.length + 1)) :=
  (readsAll_closing limit depth (e :: stack) (.lookup anyName.2)).prepend
    (goesOn_leftBracket hdepth hv fun _ => atom_of_word_eq_anyName) trivial

theorem readsAll_anyName : Scan.ReadsAll (parse limit) [anyName] := by
  intro s ts hs hts
  obtain ⟨t, rfl, ht⟩ := List.map_eq_singleton_iff.1 hts
  rw [← List.append_nil [t]] at hs
  obtain ⟨s', hparse, hs'⟩ := parse_eq_ok_of_derives (.atom (atom_of_word_eq_anyName ht))
    (Nat.zero_le limit) hs (by simp [StopsAt])
  exact ⟨_, s', hparse, hs'⟩

/-! ### Refusing -/

theorem refuses_nameAfterDot (hv : v.1 = .operator .dot) (hn : n.kind ≠ .name) :
    Scan.Refuses (continueFrom limit depth stack e) [v] n.word
      (.unexpected .nameAfterDot n.describe) := by
  intro s ts s₁ t s₂ hs hts hname ht _
  obtain ⟨dot, ts, s₃, hdot, rfl, hs, hts⟩ := hs.exists_cons hts
  obtain rfl := hs.eq_of_nil hts
  have hdotKind : dot.kind = .operator .dot := hv
  have hkind : t.kind ≠ .name := (Prod.mk.inj ht).1 ▸ hn
  refine ⟨s₂, ?_⟩
  rw [continueFrom_dot_of_ne_name hdot hdotKind hname hkind, Stream.unexpected,
    Token.describe_congr ht, Stream.fail]

theorem refuses_tooDeep (hdepth : limit ≤ depth + stack.length)
    (hv : v.1 = .operator .leftBracket) :
    Scan.Refuses (continueFrom limit depth stack e) [] v (.nestingTooDeep limit) := by
  rintro s ts s₁ t s₂ hs hts hleft rfl -
  obtain rfl := hs.eq_of_nil hts
  have hkind : t.kind = .operator .leftBracket := hv
  exact ⟨s₂, continueFrom_leftBracket_of_le hleft hkind hdepth⟩

theorem refuses_key (hdepth : depth + stack.length < limit) (hv : v.1 = .operator .leftBracket)
    (hn : atom n = .error cause) :
    Scan.Refuses (continueFrom limit depth stack e) [v] n.word cause := by
  intro s ts s₁ t s₂ hs hts hfirst ht hend
  obtain ⟨left, ts, s₃, hleft, rfl, hs, hts⟩ := hs.exists_cons hts
  obtain rfl := hs.eq_of_nil hts
  have hkind : left.kind = .operator .leftBracket := hv
  have hatom : atom t = .error cause := (atom_congr ht).trans hn
  exact ⟨s₂, continueFrom_leftBracket_of_atom_error hleft hkind hdepth hfirst (by simp [hend])
    hatom⟩

theorem refuses_unclosed (hdot : n.kind ≠ .operator .dot) (hleft : n.kind ≠ .operator .leftBracket)
    (hright : n.kind ≠ .operator .rightBracket) :
    Scan.Refuses (continueFrom limit depth (base :: stack) e) [] n.word
      (.unexpected .closingBracket n.describe) := by
  intro s ts s₁ t s₂ hs hts hnext ht _
  obtain rfl := hs.eq_of_nil hts
  have hkind : t.kind = n.kind := (Prod.mk.inj ht).1
  refine ⟨s₂, ?_⟩
  rw [continueFrom_of_ne_rightBracket hnext (hkind ▸ hdot) (hkind ▸ hleft) (hkind ▸ hright),
    Stream.unexpected, Token.describe_congr ht, Stream.fail]

theorem refuses_atom (hn : atom n = .error cause) :
    Scan.Refuses (parse limit) [] n.word cause := by
  intro s ts s₁ t s₂ hs hts hnext ht _
  obtain rfl := hs.eq_of_nil hts
  exact ⟨s₂, by rw [parse_of_next hnext, atom_congr ht, hn]; rfl⟩

/-! ### Where reading fails -/

/-- A fault in front of all tokens: it is enough to close the brackets. -/
theorem failsBehind_nil (h : Scan.Fault (continueFrom limit depth stack e) s [] err) :
    Scan.FailsBehind (continueFrom limit depth stack e) s [] (closing stack.length) err :=
  ⟨spells_closing _, readsAll_closing limit depth stack e, h⟩

/-- A fault behind a point, which needs a name. -/
theorem failsBehind_dot (hdot : t.kind = .operator .dot)
    (h : Scan.Fault (continueFrom limit depth stack e) s [t] err) :
    Scan.FailsBehind (continueFrom limit depth stack e) s [t]
      (anyName :: closing stack.length) err :=
  ⟨spells_anyName_closing _, readsAll_dot hdot, h⟩

/-- A fault behind an opening bracket, which needs a key and is closed with the others. -/
theorem failsBehind_leftBracket (hleft : t.kind = .operator .leftBracket)
    (hdepth : ¬ limit ≤ depth + stack.length)
    (h : Scan.Fault (continueFrom limit depth stack e) s [t] err) :
    Scan.FailsBehind (continueFrom limit depth stack e) s [t]
      (anyName :: closing (stack.length + 1)) err :=
  ⟨spells_anyName_closing _, readsAll_leftBracket (Nat.not_le.1 hdepth) hleft, h⟩

/-- The loop fails behind the tokens that it has taken. If it has taken none, closing the brackets
completes what was read before. -/
theorem exists_failsBehind_of_continueFrom
    (h : continueFrom limit depth stack e s = .error err s') :
    ∃ us ws, Scan.FailsBehind (continueFrom limit depth stack e) s us ws err ∧
      (us = [] → ws = closing stack.length) := by
  fun_induction continueFrom limit depth stack e s with
  | case1 stack e s err s' hnext =>
    cases h
    exact ⟨_, _, failsBehind_nil (.lexical .nil hnext), fun _ => rfl⟩
  | case2 e s t s₁ hnext stack hdot err s' hname =>
    cases h
    have hus : s.Takes [t] s₁ := .cons hnext (by simp [Token.isEnd, hdot]) .nil
    exact ⟨_, _, failsBehind_dot hdot (.lexical hus hname), by simp⟩
  | case3 e s t s₁ hnext stack hdot name s₂ hname hkind ih =>
    have hus : s.Takes [t, name] s₂ := .cons hnext (by simp [Token.isEnd, hdot])
      (.cons hname (by simp [Token.isEnd, hkind]) .nil)
    obtain ⟨us, ws, hfails, -⟩ := ih h
    exact ⟨_, ws, hfails.prepend (goesOn_dot hdot hkind) hus (fun _ _ _ => trivial) trivial,
      by simp⟩
  | case4 e s t s₁ hnext stack hdot name s₂ hname hkind =>
    cases h
    have hus : s.Takes [t] s₁ := .cons hnext (by simp [Token.isEnd, hdot]) .nil
    have hfault : Scan.Fault (continueFrom limit depth stack e) s [t]
        (.grammar (.unexpected .nameAfterDot name.describe) (s'.locationOf name.start)) :=
      .refused hus hname fun _ _ => refuses_nameAfterDot hdot hkind
    exact ⟨_, _, failsBehind_dot hdot hfault, by simp⟩
  | case5 e s t s₁ hnext stack hleft hdepth =>
    cases h
    exact ⟨_, _, failsBehind_nil (.refused .nil hnext fun _ _ => refuses_tooDeep hdepth hleft),
      fun _ => rfl⟩
  | case6 e s t s₁ hnext stack hleft hdepth err s' hfirst =>
    cases h
    have hus : s.Takes [t] s₁ := .cons hnext (by simp [Token.isEnd, hleft]) .nil
    exact ⟨_, _, failsBehind_leftBracket hleft hdepth (.lexical hus hfirst), by simp⟩
  | case7 e s t s₁ hnext stack hleft hdepth first s₂ hfirst hend =>
    -- the bracket is reported, and what was read before it can be completed without it
    cases h
    rw [Stream.locationOf_of_next hfirst]
    exact ⟨_, _, failsBehind_nil (.refused .nil hnext fun hcause => absurd rfl hcause),
      fun _ => rfl⟩
  | case8 e s t s₁ hnext stack hleft hdepth first s₂ hfirst hend cause hatom =>
    cases h
    have hus : s.Takes [t] s₁ := .cons hnext (by simp [Token.isEnd, hleft]) .nil
    have hfault : Scan.Fault (continueFrom limit depth stack e) s [t]
        (.grammar cause (s'.locationOf first.start)) :=
      .refused hus hfirst fun _ _ => refuses_key (Nat.not_le.1 hdepth) hleft hatom
    exact ⟨_, _, failsBehind_leftBracket hleft hdepth hfault, by simp⟩
  | case9 e s t s₁ hnext stack hleft hdepth first s₂ hfirst hend key hatom ih =>
    have hus : s.Takes [t, first] s₂ := .cons hnext (by simp [Token.isEnd, hleft])
      (.cons hfirst (by simpa using hend) .nil)
    obtain ⟨us, ws, hfails, -⟩ := ih h
    have hgo : Scan.GoesOn (continueFrom limit depth stack e) ([t, first].map Token.word)
        (fun _ => True) (continueFrom limit depth (e :: stack) key) :=
      goesOn_leftBracket (Nat.not_le.1 hdepth) hleft fun _ ht => (atom_congr ht).trans hatom
    exact ⟨_, ws, hfails.prepend hgo hus (fun _ _ _ => trivial) trivial, by simp⟩
  | case10 e s t s₁ hnext base stack hright ih =>
    have hus : s.Takes [t] s₁ := .cons hnext (by simp [Token.isEnd, hright]) .nil
    obtain ⟨us, ws, hfails, -⟩ := ih h
    exact ⟨_, ws, hfails.prepend (goesOn_rightBracket hright) hus (fun _ _ _ => trivial) trivial,
      by simp⟩
  | case11 e s t s₁ hnext base stack hdot hleft hright =>
    cases h
    exact ⟨_, _,
      failsBehind_nil (.refused .nil hnext fun _ _ => refuses_unclosed hdot hleft hright),
      fun _ => rfl⟩
  | case12 => cases h

theorem exists_failsBehind_of_parse (h : parse limit s = .error err s') :
    ∃ us ws, Scan.FailsBehind (parse limit) s us ws err := by
  have hanyName : ∀ w ∈ [anyName], Lexeme.Spells w.1 w.2.toList :=
    List.forall_mem_singleton.2 spells_anyName
  cases hnext : s.next with
  | error err' s₁ =>
    simp only [parse, bind, EStateM.bind, hnext] at h
    cases h
    exact ⟨[], [anyName], hanyName, readsAll_anyName, .lexical .nil hnext⟩
  | ok t s₁ =>
    rw [parse_of_next hnext] at h
    cases hatom : atom t with
    | error cause =>
      rw [hatom] at h
      cases h
      exact ⟨[], [anyName], hanyName, readsAll_anyName,
        .refused .nil hnext fun _ _ => refuses_atom hatom⟩
    | ok a =>
      rw [hatom] at h
      have ht : t.isEnd = false := isEnd_eq_false_of_atom hatom
      obtain ⟨us, ws, hfails, -⟩ := exists_failsBehind_of_continueFrom h
      exact ⟨_, ws, hfails.prepend (goesOn_atom hatom) (.cons hnext ht .nil) (fun _ _ _ => trivial)
        trivial⟩

/-! ### Behind an expression -/

/-- The token does not continue an expression before it. -/
def EndsBefore (kind : Token.Kind) : Prop :=
  kind ≠ .operator .dot ∧ kind ≠ .operator .leftBracket

theorem endsBefore_iff : EndsBefore t.kind ↔ ¬ StartsTrailer t :=
  not_or.symm

theorem endsBefore_endMarker : EndsBefore .endMarker :=
  ⟨by decide, by decide⟩

/-- Looking at the token behind an expression leaves the token there. -/
theorem Halts.next_eq (h : Halts s s') (hs : s.pending = []) : s'.next = s.next := by
  obtain ⟨t, s₁, hnext, -, rfl⟩ := h
  rw [hnext]
  cases ht : t.isEnd with
  | true => exact (Stream.next_of_isEnd hs hnext ht).2
  | false => rfl

theorem Halts.endsBefore (h : Halts s s') : ∀ t s₁, s.next = .ok t s₁ → EndsBefore t.kind := by
  obtain ⟨t, s₁, hnext, hstop, -⟩ := h
  intro u s₂ hu
  rw [hnext] at hu
  cases hu
  exact endsBefore_iff.2 hstop

/-- What comes behind an expression is read as if the expression were not there. -/
theorem goesOn_parse (h : Derives us e) (hdepth : e.bracketDepth ≤ limit)
    (hg : (g e).IgnoresLookahead) :
    Scan.GoesOn (parse limit >>= g) (us.map Token.word) EndsBefore (g e) := by
  intro s ts s' t s₁ hs hts hnext hend hstop
  have hparse : parse limit s = .ok e (if t.isEnd then s₁ else s₁.unread t) :=
    parse_eq_ok_iff.2 ⟨ts, s', hs, h.congr hts, hdepth, t, s₁, hnext, endsBefore_iff.1 hstop, rfl⟩
  rw [← hg s' t s₁ hnext hend]
  simp only [bind, EStateM.bind, hparse]

/-- The same behind the first token of the expression. -/
theorem goesOn_trailers (hatom : atom t = .ok a) (h : Derives (t :: us) e)
    (hdepth : e.bracketDepth ≤ limit) (hg : (g e).IgnoresLookahead) :
    Scan.GoesOn (continueFrom limit 0 [] a >>= g) (us.map Token.word) EndsBefore (g e) := by
  intro s ts s' u s₁ hs hts hnext hend hstop
  -- with the first token in front again, the whole expression is read
  have hfirst : (s.unread t).Takes (t :: ts) s' :=
    .cons rfl (isEnd_eq_false_of_atom hatom) hs
  have hwhole := goesOn_parse h hdepth hg (s.unread t) (t :: ts) s' u s₁ hfirst
    (by rw [List.map_cons, List.map_cons, hts]) hnext hend hstop
  have hparse : parse limit (s.unread t) = continueFrom limit 0 [] a s := by
    rw [parse_of_next (rfl : (s.unread t).next = .ok t s), hatom]
    rfl
  rw [← hwhole]
  simp only [bind, EStateM.bind, hparse]

end Expr

/-! ### Whole markers -/

namespace Compiler

variable {c : Compiler} {e : Expr} {s s' s₁ : Stream} {t : Token} {err : Error}

/-- What is left to do behind the expression of a marker: nothing may follow. -/
def ending (e : Expr) : Scan Expr := do
  Stream.expectEnd
  return e

theorem wholeExpression_eq_bind : c.wholeExpression = Expr.parse c.maxDepth >>= ending := rfl

theorem ending_of_next (h : s.next = .ok t s₁) :
    ending e s =
      if t.isEnd then .ok e s₁
      else Stream.fail (.unexpected .endOfExpression t.describe) t s₁ := by
  cases ht : t.isEnd
  all_goals
    simp only [ending, Stream.expectEnd, bind, EStateM.bind, h, ht]
    rfl

theorem readsAll_ending (e : Expr) : (ending e).ReadsAll [] := by
  intro s ts hs hts
  obtain rfl := List.map_eq_nil_iff.1 hts
  obtain ⟨t, s₁, hnext, ht, hspent⟩ := Stream.delivers_nil_iff.1 hs
  exact ⟨e, s₁, by rw [ending_of_next hnext, if_pos ht], hspent.delivers⟩

theorem ignoresLookahead_ending (e : Expr) : (ending e).IgnoresLookahead := by
  intro s t s₁ hnext hspent
  rw [ending_of_next hnext]
  cases ht : t.isEnd with
  | true => exact ending_of_next (hspent ht).next_eq
  | false =>
    have hunread : (s₁.unread t).next = .ok t s₁ := rfl
    rw [if_neg Bool.false_ne_true, ending_of_next hunread, ht]

theorem failsBehind_of_ending (h : ending e s = .error err s') :
    (ending e).FailsBehind s [] [] err := by
  refine ⟨List.forall_mem_nil _, readsAll_ending e, ?_⟩
  cases hnext : s.next with
  | error err' s₁ =>
    simp only [ending, Stream.expectEnd, bind, EStateM.bind, hnext] at h
    cases h
    exact .lexical .nil hnext
  | ok t s₁ =>
    rw [ending_of_next hnext] at h
    split at h
    · cases h
    · cases h
      refine .refused .nil hnext fun _ hend => ?_
      intro s ts s₁ u s₂ hs hts hnext hu hend
      obtain rfl := hs.eq_of_nil hts
      refine ⟨s₂, ?_⟩
      rw [ending_of_next hnext, hend, Token.describe_congr hu]
      rfl

/-- A marker that is not an expression as a whole fails where it cannot be completed to one. -/
theorem exists_failsBehind_of_wholeExpression (hs : s.pending = [])
    (h : c.wholeExpression s = .error err s') :
    ∃ us ws, c.wholeExpression.FailsBehind s us ws err := by
  rw [wholeExpression_eq_bind] at h ⊢
  rcases Scan.bind_eq_error_iff.1 h with h | ⟨e, s₁, hparse, h⟩
  · obtain ⟨us, ws, hfails⟩ := Expr.exists_failsBehind_of_parse h
    exact ⟨us, ws, hfails.bind readsAll_ending⟩
  · obtain ⟨us, s₂, hus, hderives, hdepth, t, s₃, hnext, hstop, rfl⟩ :=
      Expr.parse_eq_ok_iff.1 hparse
    have hend (ht : t.isEnd = true) : s₃.IsSpent :=
      (Stream.next_of_isEnd (hus.pending_eq_nil hs) hnext ht).1
    rw [ignoresLookahead_ending e s₂ t s₃ hnext hend] at h
    have hfails := failsBehind_of_ending h
    refine ⟨us ++ [], [], hfails.prepend
      (Expr.goesOn_parse hderives hdepth (ignoresLookahead_ending e)) hus ?_ ?_⟩
    · intro u s₄ hu
      rw [hnext] at hu
      cases hu
      exact Expr.endsBefore_iff.2 hstop
    · exact Expr.endsBefore_endMarker

end Compiler

end TextTemplate
