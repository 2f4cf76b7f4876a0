import TextTemplate.Proofs.Stream.Tokens

/-!
# The grammar of expressions

An expression is derived from the list of its tokens: from one token for a literal or a variable,
and from the tokens of the expression before a trailer followed by those of the trailer. The grammar
is left recursive, like the trees, and knows nothing of open brackets. Reading is one loop with a
stack of them. What joins the two is that reading the tokens of an expression comes to that
expression behind them, whatever lies on the stack: only the number of open brackets matters, for
the limit.

## Main definitions

* `Expr.bracketDepth`: how deep brackets nest.
* `Expr.Derives`: an expression and the tokens from which it is derived.
* `Expr.Reaches`: reading comes to an expression at a later point of the stream.

## Main results

* `Expr.reaches_of_takes`: reading comes to the expression that the tokens derive.
* `Expr.parse_eq_ok_of_derives`: it is the expression that is read if no trailer follows.
-/

namespace TextTemplate.Expr

variable {limit depth : Nat} {stack : List Expr} {base e key : Expr} {s s' s₁ s₂ : Stream}
  {t n : Token} {err : Error}

/-- How deep brackets nest in an expression. -/
def bracketDepth : Expr → Nat
  | literal _ => 0
  | lookup _ => 0
  | member base _ => base.bracketDepth
  | item base key => max base.bracketDepth (key.bracketDepth + 1)

/-- The tokens from which an expression is derived. -/
inductive Derives : List Token → Expr → Prop where
  | atom {t : Token} {e : Expr} (h : atom t = .ok e) : Derives [t] e
  | member {ts : List Token} {base : Expr} {dot name : Token} (hbase : Derives ts base)
      (hdot : dot.kind = .operator .dot) (hname : name.kind = .name) :
      Derives (ts ++ [dot, name]) (.member base name.text)
  | item {ts ks : List Token} {base key : Expr} {left right : Token} (hbase : Derives ts base)
      (hleft : left.kind = .operator .leftBracket) (hkey : Derives ks key)
      (hright : right.kind = .operator .rightBracket) :
      Derives (ts ++ left :: (ks ++ [right])) (.item base key)

/-- A token with which a trailer begins. -/
def StartsTrailer (t : Token) : Prop :=
  t.kind = .operator .dot ∨ t.kind = .operator .leftBracket

/-! ### The loop, token by token -/

/-- One round of the loop, without the facts that show that it comes to an end. -/
theorem continueFrom_eq (limit depth : Nat) (stack : List Expr) (e : Expr) (s : Stream) :
    continueFrom limit depth stack e s =
      match s.next with
      | .error err s => .error err s
      | .ok t s₁ =>
        match t.kind, stack with
        | .operator .dot, stack =>
          match s₁.next with
          | .error err s => .error err s
          | .ok name s₂ =>
            if name.kind = .name then continueFrom limit depth stack (.member e name.text) s₂
            else Stream.unexpected .nameAfterDot name s₂
        | .operator .leftBracket, stack =>
          if limit ≤ depth + stack.length then Stream.fail (.nestingTooDeep limit) t s₁
          else match s₁.next with
            | .error err s => .error err s
            | .ok first s₂ =>
              if first.isEnd then Stream.fail .unclosedBracket t s₂
              else match atom first with
                | .error cause => Stream.fail cause first s₂
                | .ok key => continueFrom limit depth (e :: stack) key s₂
        | .operator .rightBracket, base :: stack => continueFrom limit depth stack (.item base e) s₁
        | _, _ :: _ => Stream.unexpected .closingBracket t s₁
        | _, [] => .ok e (if t.isEnd then s₁ else s₁.unread t) := by
  rw [continueFrom]
  split
  · next h => rw [h]
  · next h =>
    simp only [h]
    split
    · next ht =>
      simp only [ht]
      split <;> next h₁ => simp only [h₁]
    · next ht =>
      simp only [ht]
      split
      · rfl
      · split
        · next h₁ => simp only [h₁]
        · next first _ h₁ => cases hatom : atom first <;> simp only [h₁, hatom]
    · next ht => simp only [ht]
    · split <;> simp_all
    · split <;> simp_all

theorem continueFrom_dot (h : s.next = .ok t s₁) (ht : t.kind = .operator .dot)
    (h₁ : s₁.next = .ok n s₂) (hn : n.kind = .name) :
    continueFrom limit depth stack e s = continueFrom limit depth stack (.member e n.text) s₂ := by
  rw [continueFrom_eq]
  simp only [h, ht, h₁, hn, if_true]

theorem continueFrom_leftBracket (h : s.next = .ok t s₁) (ht : t.kind = .operator .leftBracket)
    (hdepth : depth + stack.length < limit) (h₁ : s₁.next = .ok n s₂) (hn : atom n = .ok key) :
    continueFrom limit depth stack e s = continueFrom limit depth (e :: stack) key s₂ := by
  have hend : ¬ n.isEnd = true := mt Token.isEnd_iff.1 (kind_ne_endMarker_of_atom hn)
  rw [continueFrom_eq]
  simp only [h, ht, h₁, hn, if_neg hend, if_neg (Nat.not_le.2 hdepth)]

theorem continueFrom_rightBracket (h : s.next = .ok t s₁) (ht : t.kind = .operator .rightBracket) :
    continueFrom limit depth (base :: stack) e s =
      continueFrom limit depth stack (.item base e) s₁ := by
  rw [continueFrom_eq]
  simp only [h, ht]

/-! The rounds in which the loop fails. -/

theorem continueFrom_of_error (h : s.next = .error err s') :
    continueFrom limit depth stack e s = .error err s' := by
  rw [continueFrom_eq]
  simp only [h]

theorem continueFrom_dot_of_error (h : s.next = .ok t s₁) (ht : t.kind = .operator .dot)
    (h₁ : s₁.next = .error err s') : continueFrom limit depth stack e s = .error err s' := by
  rw [continueFrom_eq]
  simp only [h, ht, h₁]

theorem continueFrom_dot_of_ne_name (h : s.next = .ok t s₁) (ht : t.kind = .operator .dot)
    (h₁ : s₁.next = .ok n s₂) (hn : n.kind ≠ .name) :
    continueFrom limit depth stack e s = Stream.unexpected .nameAfterDot n s₂ := by
  rw [continueFrom_eq]
  simp only [h, ht, h₁, if_neg hn]

theorem continueFrom_leftBracket_of_le (h : s.next = .ok t s₁)
    (ht : t.kind = .operator .leftBracket) (hdepth : limit ≤ depth + stack.length) :
    continueFrom limit depth stack e s = Stream.fail (.nestingTooDeep limit) t s₁ := by
  rw [continueFrom_eq]
  simp only [h, ht, if_pos hdepth]

theorem continueFrom_leftBracket_of_error (h : s.next = .ok t s₁)
    (ht : t.kind = .operator .leftBracket) (hdepth : depth + stack.length < limit)
    (h₁ : s₁.next = .error err s') : continueFrom limit depth stack e s = .error err s' := by
  rw [continueFrom_eq]
  simp only [h, ht, if_neg (Nat.not_le.2 hdepth), h₁]

theorem continueFrom_leftBracket_of_isEnd (h : s.next = .ok t s₁)
    (ht : t.kind = .operator .leftBracket) (hdepth : depth + stack.length < limit)
    (h₁ : s₁.next = .ok n s₂) (hn : n.isEnd = true) :
    continueFrom limit depth stack e s = Stream.fail .unclosedBracket t s₂ := by
  rw [continueFrom_eq]
  simp only [h, ht, if_neg (Nat.not_le.2 hdepth), h₁, if_pos hn]

theorem continueFrom_leftBracket_of_atom_error {cause : GrammarError} (h : s.next = .ok t s₁)
    (ht : t.kind = .operator .leftBracket) (hdepth : depth + stack.length < limit)
    (h₁ : s₁.next = .ok n s₂) (hend : ¬ n.isEnd = true) (hn : atom n = .error cause) :
    continueFrom limit depth stack e s = Stream.fail cause n s₂ := by
  rw [continueFrom_eq]
  simp only [h, ht, if_neg (Nat.not_le.2 hdepth), h₁, if_neg hend, hn]

/-- With a bracket open, only the closing bracket ends the expression behind it. -/
theorem continueFrom_of_ne_rightBracket (h : s.next = .ok t s₁) (hdot : t.kind ≠ .operator .dot)
    (hleft : t.kind ≠ .operator .leftBracket) (hright : t.kind ≠ .operator .rightBracket) :
    continueFrom limit depth (base :: stack) e s = Stream.unexpected .closingBracket t s₁ := by
  rw [continueFrom_eq]
  simp only [h]

/-- With no bracket open, a token that starts no trailer ends the expression. -/
theorem continueFrom_stop (h : s.next = .ok t s₁) (ht : ¬ StartsTrailer t) :
    continueFrom limit depth [] e s = .ok e (if t.isEnd then s₁ else s₁.unread t) := by
  obtain ⟨hdot, hleft⟩ := not_or.1 ht
  rw [continueFrom_eq]
  simp only [h]

/-- Only what the stream delivers next decides how the loop goes on. -/
theorem continueFrom_congr {s' : Stream} (h : s.next = s'.next) :
    continueFrom limit depth stack e s = continueFrom limit depth stack e s' := by
  rw [continueFrom_eq, continueFrom_eq, h]

/-! ### Reading what is derived -/

/-- Reading an expression within some open brackets comes to `e` at a later point of the stream: the
first token is an atom, and the loop that starts behind it goes on from there with `e`. -/
def Reaches (limit depth : Nat) (stack : List Expr) (s : Stream) (e : Expr) (s' : Stream) : Prop :=
  ∃ t s₁ a, s.next = .ok t s₁ ∧ atom t = .ok a ∧
    continueFrom limit depth stack a s₁ = continueFrom limit depth stack e s'

theorem parse_eq_continueFrom {s' : Stream} (h : Reaches limit 0 [] s e s') :
    parse limit s = continueFrom limit 0 [] e s' := by
  obtain ⟨t, s₁, a, hnext, hatom, hloop⟩ := h
  rw [← hloop]
  simp only [parse, bind, EStateM.bind, hnext, hatom]
  rfl

/-- Reading comes to the expression that the tokens derive, behind them. -/
theorem reaches_of_takes (depth : Nat) (stack : List Expr) {us : List Token} {s' : Stream}
    (h : Derives us e) (hdepth : depth + stack.length + e.bracketDepth ≤ limit)
    (hs : s.Takes us s') : Reaches limit depth stack s e s' := by
  induction h generalizing stack s s' with
  | atom h =>
    obtain ⟨s₁, hnext, -, hnil⟩ := Stream.takes_cons_iff.1 hs
    obtain rfl := Stream.takes_nil_iff.1 hnil
    exact ⟨_, s', _, hnext, h, rfl⟩
  | member _ hdot hname ih =>
    obtain ⟨s₁, hbase, hs₁⟩ := Stream.takes_append_iff.1 hs
    obtain ⟨t, s₀, a, hnext, hatom, hloop⟩ := ih stack hdepth hbase
    obtain ⟨s₂, hnext₂, -, hs₂⟩ := Stream.takes_cons_iff.1 hs₁
    obtain ⟨s₃, hnext₃, -, hnil⟩ := Stream.takes_cons_iff.1 hs₂
    obtain rfl := Stream.takes_nil_iff.1 hnil
    refine ⟨t, s₀, a, hnext, hatom, ?_⟩
    rw [hloop, continueFrom_dot hnext₂ hdot hnext₃ hname]
  | @item _ ks base key _ _ _ hleft _ hright ihbase ihkey =>
    simp only [bracketDepth] at hdepth
    obtain ⟨s₁, hbase, hs₁⟩ := Stream.takes_append_iff.1 hs
    obtain ⟨t, s₀, a, hnext, hatom, hloop⟩ := ihbase stack (by omega) hbase
    obtain ⟨s₂, hnext₂, -, hs₂⟩ := Stream.takes_cons_iff.1 hs₁
    obtain ⟨s₃, hkey, hs₃⟩ := Stream.takes_append_iff.1 hs₂
    -- the key is read with one more bracket open
    have hkeyDepth : depth + (base :: stack).length + key.bracketDepth ≤ limit := by
      rw [List.length_cons]
      omega
    obtain ⟨u, s₄, b, hnext₄, hatom₄, hloop₄⟩ := ihkey (base :: stack) hkeyDepth hkey
    obtain ⟨s₅, hnext₅, -, hnil⟩ := Stream.takes_cons_iff.1 hs₃
    obtain rfl := Stream.takes_nil_iff.1 hnil
    refine ⟨t, s₀, a, hnext, hatom, ?_⟩
    calc continueFrom limit depth stack a s₀
        = continueFrom limit depth stack base s₁ := hloop
      _ = continueFrom limit depth (base :: stack) b s₄ :=
          continueFrom_leftBracket hnext₂ hleft (by omega) hnext₄ hatom₄
      _ = continueFrom limit depth (base :: stack) key s₃ := hloop₄
      _ = continueFrom limit depth stack (.item base key) s' :=
          continueFrom_rightBracket hnext₅ hright

/-- Reading comes to the expression that the first tokens derive, behind them. -/
theorem reaches_of_derives (depth : Nat) (stack : List Expr) {us ts : List Token}
    {fault : Option Error} (h : Derives us e)
    (hdepth : depth + stack.length + e.bracketDepth ≤ limit)
    (hs : s.Delivers (us ++ ts) fault) :
    ∃ s', Reaches limit depth stack s e s' ∧ s'.Delivers ts fault := by
  obtain ⟨s', htakes, hs'⟩ := hs.exists_takes
  exact ⟨s', reaches_of_takes depth stack h hdepth htakes, hs'⟩

/-- The tokens do not continue an expression before them. -/
def StopsAt (ts : List Token) : Prop :=
  ∀ t ∈ ts.head?, ¬ StartsTrailer t

private theorem forall_head?_append {P : Token → Prop} {ts us : List Token} {t : Token}
    (hts : ∀ u ∈ ts.head?, P u) (ht : P t) : ∀ u ∈ (ts ++ t :: us).head?, P u := by
  cases ts with
  | nil => simpa using ht
  | cons v ts => simpa using hts

/-- The first token of an expression is an atom, and what follows it within the expression begins a
trailer. -/
theorem Derives.eq_cons {us : List Token} (h : Derives us e) :
    ∃ t rest a, us = t :: rest ∧ Expr.atom t = .ok a ∧ ∀ u ∈ rest.head?, StartsTrailer u := by
  induction h with
  | atom h => exact ⟨_, [], _, rfl, h, by simp⟩
  | member _ hdot _ ih =>
    obtain ⟨t, rest, a, rfl, ha, hrest⟩ := ih
    exact ⟨t, _, a, rfl, ha, forall_head?_append hrest (Or.inl hdot)⟩
  | item _ hleft _ _ ih =>
    obtain ⟨t, rest, a, rfl, ha, hrest⟩ := ih
    exact ⟨t, _, a, rfl, ha, forall_head?_append hrest (Or.inr hleft)⟩

/-- The loop ends with the expression that it holds if no trailer follows, and what follows is still
to be delivered. -/
theorem continueFrom_of_stopsAt {ts : List Token} (hs : s.Delivers ts none) (hstop : StopsAt ts) :
    ∃ s', continueFrom limit depth [] e s = .ok e s' ∧ s'.Delivers ts none := by
  cases ts with
  | nil =>
    obtain ⟨t, s₁, hnext, ht, hspent⟩ := Stream.delivers_nil_iff.1 hs
    have hkind := Token.isEnd_iff.1 ht
    refine ⟨s₁, ?_, hspent.delivers⟩
    rw [continueFrom_stop hnext (by simp [StartsTrailer, hkind]), if_pos ht]
  | cons t ts =>
    obtain ⟨s₁, hnext, ht, hs₁⟩ := Stream.delivers_cons_iff.1 hs
    refine ⟨s₁.unread t, ?_, hs₁.unread ht⟩
    rw [continueFrom_stop hnext (hstop t rfl), ht]
    rfl

/-- The expression that the first tokens derive is the one that is read, if no trailer follows. -/
theorem parse_eq_ok_of_derives {us ts : List Token} (h : Derives us e)
    (hdepth : e.bracketDepth ≤ limit) (hs : s.Delivers (us ++ ts) none) (hstop : StopsAt ts) :
    ∃ s', parse limit s = .ok e s' ∧ s'.Delivers ts none := by
  obtain ⟨s₁, hreach, hs₁⟩ := reaches_of_derives 0 [] h (by simpa) hs
  obtain ⟨s', hloop, hs'⟩ := continueFrom_of_stopsAt hs₁ hstop
  exact ⟨s', (parse_eq_continueFrom hreach).trans hloop, hs'⟩

end TextTemplate.Expr
