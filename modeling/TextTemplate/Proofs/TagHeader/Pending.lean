import TextTemplate.Proofs.TagHeader.Descent
import TextTemplate.Proofs.TagHeader.Failure

/-!
# At most one token is held back

The machine that runs the routines comes to the results of the readers. The readers keep the open
brackets on a stack instead of calling themselves, and they push back only the token at which a
whole expression stops; where the routine for a key pushes back the token behind it and the one that
waits for the bracket reads it again, the loop just goes on. At the end marker nothing is pushed
back, and it is delivered again.

So what holds of every state of the machine holds of the readers: on a stream with at most one
token held back, nothing is held back when a token is pushed back, there is never more than one
such token, and whatever the outcome is, at most one is left. Where an expression was read it is the
token at which reading stopped, and behind a tag header there is none.

## Main definitions

* `Expr.HoldsBack`: what is held back behind an expression.
* `Program.Implements`: a program comes to the result of a reader and keeps to the discipline.

## Main results

* `Config.reaches_trailers`, `Config.reaches_arguments`: the machine comes to what the two loops
  give.
* `Program.implements_readers`: all readers keep to the discipline.
-/

namespace TextTemplate

/-! ### What is left held back -/

namespace Expr

variable {limit depth : Nat} {stack : List Expr} {base e e' : Expr} {s s' s₁ : Stream} {t : Token}

/-- Reading takes some tokens and stops at the one behind them. That token begins no trailer, and it
is held back unless it is the end marker. -/
def HoldsBack (s s' : Stream) : Prop :=
  ∃ us s₁ t s₂, s.Takes us s₁ ∧ s₁.next = .ok t s₂ ∧ ¬ StartsTrailer t ∧
    s'.pending = if t.isEnd then [] else [t]

theorem HoldsBack.pending_le (h : HoldsBack s s') : s'.pending.length ≤ 1 := by
  obtain ⟨us, s₁, t, s₂, -, -, -, hpending⟩ := h
  rw [hpending]
  split
  · exact Nat.zero_le 1
  · exact Nat.le_refl 1

theorem HoldsBack.cons (hnext : s.next = .ok t s₁) (ht : t.isEnd = false) (h : HoldsBack s₁ s') :
    HoldsBack s s' := by
  obtain ⟨us, s₂, u, s₃, htakes, hstop⟩ := h
  exact ⟨t :: us, s₂, u, s₃, .cons hnext ht htakes, hstop⟩

theorem holdsBack_of_continueFrom (hs : s.pending.length ≤ 1)
    (h : continueFrom limit depth stack e s = .ok e' s') : HoldsBack s s' := by
  fun_induction continueFrom limit depth stack e s with
  | case1 | case2 | case4 | case5 | case6 | case7 | case8 | case11 => cases h
  | case3 e s t s₁ hnext stack hdot name s₂ hname hkind ih =>
    have hs₁ := Stream.pending_of_next_of_le hs hnext
    have hs₂ := Stream.pending_of_next hs₁ hname
    have hbehind : HoldsBack s₂ s' := ih (Stream.length_pending_le hs₂) h
    exact .cons hnext (by simp [Token.isEnd, hdot])
      (hbehind.cons hname (by simp [Token.isEnd, hkind]))
  | case9 e s t s₁ hnext stack hleft hdepth first s₂ hfirst hend key hatom ih =>
    have hs₁ := Stream.pending_of_next_of_le hs hnext
    have hs₂ := Stream.pending_of_next hs₁ hfirst
    have hbehind : HoldsBack s₂ s' := ih (Stream.length_pending_le hs₂) h
    exact .cons hnext (by simp [Token.isEnd, hleft])
      (hbehind.cons hfirst (isEnd_eq_false_of_atom hatom))
  | case10 e s t s₁ hnext base stack hright ih =>
    have hs₁ := Stream.pending_of_next_of_le hs hnext
    exact .cons hnext (by simp [Token.isEnd, hright]) (ih (Stream.length_pending_le hs₁) h)
  | case12 e s t s₁ hnext hdot hleft =>
    have hs₁ := Stream.pending_of_next_of_le hs hnext
    cases h
    refine ⟨[], s, t, s₁, .nil, hnext, not_or.2 ⟨hdot, hleft⟩, ?_⟩
    split
    · exact hs₁
    · exact congrArg (t :: ·) hs₁

theorem holdsBack_of_parse (hs : s.pending.length ≤ 1) (h : parse limit s = .ok e s') :
    HoldsBack s s' := by
  obtain ⟨t, s₁, hnext, hloop⟩ := Scan.bind_eq_ok_iff.1 h
  have hs₁ := Stream.pending_of_next_of_le hs hnext
  cases hatom : atom t with
  | error cause =>
    rw [hatom] at hloop
    cases hloop
  | ok a =>
    rw [hatom] at hloop
    exact .cons hnext (isEnd_eq_false_of_atom hatom)
      (holdsBack_of_continueFrom (Stream.length_pending_le hs₁) hloop)

end Expr

namespace TagHeader

variable {limit : Nat} {name : String} {args : List Argument} {H : TagHeader} {s s' : Stream}

/-- Arguments are read up to the end marker, behind which nothing is held back. -/
theorem pending_of_arguments (hs : s.pending.length ≤ 1) (h : arguments limit s = .ok args s') :
    s'.pending = [] := by
  fun_induction arguments limit s generalizing args with
  | case1 | case4 | case5 | case7 | case9 => cases h
  | case2 s t s₁ hnext hend =>
    cases h
    exact Stream.pending_of_next_of_le hs hnext
  | case3 s t s₁ hnext hcomma ih =>
    exact ih (Stream.length_pending_le (Stream.pending_of_next_of_le hs hnext)) h
  | case6 s t s₁ hnext hname follower s₂ hfollower hequal e s₃ hparse ih =>
    obtain ⟨rest, hrest, -⟩ := andThen_eq_ok_iff.1 h
    have hs₁ := Stream.pending_of_next_of_le hs hnext
    have hs₂ := Stream.length_pending_le (Stream.pending_of_next hs₁ hfollower)
    exact ih (Expr.holdsBack_of_parse hs₂ hparse).pending_le hrest
  | case8 s t s₁ hnext hname follower s₂ hfollower hequal e s₃ htrailers ih =>
    obtain ⟨rest, hrest, -⟩ := andThen_eq_ok_iff.1 h
    have hs₁ := Stream.pending_of_next_of_le hs hnext
    have hs₂ := Stream.length_pending_unread_le follower (Stream.pending_of_next hs₁ hfollower)
    exact ih (Expr.holdsBack_of_continueFrom hs₂ htrailers).pending_le hrest
  | case10 s t s₁ hnext e s₂ hparse hend hcomma hname ih =>
    obtain ⟨rest, hrest, -⟩ := andThen_eq_ok_iff.1 h
    have hs₁ := Stream.length_pending_unread_le t (Stream.pending_of_next_of_le hs hnext)
    exact ih (Expr.holdsBack_of_parse hs₁ hparse).pending_le hrest

theorem pending_of_parseArguments (hs : s.pending.length ≤ 1)
    (h : parseArguments limit name s = .ok H s') : s'.pending = [] := by
  rw [parseArguments_eq_bind] at h
  obtain ⟨args, s₁, hargs, hpure⟩ := Scan.bind_eq_ok_iff.1 h
  obtain ⟨-, rfl⟩ := Scan.pure_eq_ok_iff.1 hpure
  exact pending_of_arguments hs hargs

theorem pending_of_parse (hs : s.pending.length ≤ 1) (h : parse limit s = .ok H s') :
    s'.pending = [] := by
  obtain ⟨name, s₁, hname, hrest⟩ := Scan.bind_eq_ok_iff.1 h
  obtain ⟨hnext, -⟩ := Stream.parseName_eq_ok_iff.1 hname
  have hs₁ := Stream.pending_of_next_of_le hs hnext
  exact pending_of_parseArguments (Stream.length_pending_le hs₁) hrest

end TagHeader

/-! ### The machine and the readers -/

namespace Config

variable {α β : Type} {limit depth : Nat} {s : Stream} {e : Expr}

/-- Where the machine goes on behind something that has been read. -/
def behind (k : α → Program β) : EStateM.Result Error Stream α → Config β
  | .ok a s => running (k a) s
  | .error err s => stopped (.error err s)

/-- What is left to do behind an expression with some brackets open. -/
def pendingBrackets (depth : Nat) (k : Expr → Program α) : List Expr → Expr → Program α
  | [], e => k e
  | base :: stack, e =>
    (Program.closeBracket (depth + stack.length) base e).bind (pendingBrackets depth k stack)

variable {stack : List Expr} {k : Expr → Program α}

/-- Calling the routine for trailers, with some brackets open around it, is the loop. -/
theorem reaches_pendingBrackets (hs : s.pending.length ≤ 1)
    (hstack : stack ≠ [] → s.pending = []) :
    Reaches limit
      (running (.call (.trailers (depth + stack.length) e) (pendingBrackets depth k stack)) s)
      (behind k (Expr.continueFrom limit depth stack e s)) := by
  refine .step rfl ?_
  fun_induction Expr.continueFrom limit depth stack e s with
  | case1 stack e s err s₁ hnext => exact reaches_next_error hnext
  | case2 e s t s₁ hnext stack hdot err s₂ hname =>
    refine .next hnext ?_
    simp only [hdot]
    exact reaches_next_error hname
  | case3 e s t s₁ hnext stack hdot name s₂ hname hkind ih =>
    have hs₁ := Stream.pending_of_next_of_le hs hnext
    have hs₂ := Stream.pending_of_next hs₁ hname
    refine .next hnext ?_
    simp only [hdot]
    refine .next hname ?_
    simp only [if_pos hkind]
    exact .step rfl (ih (Stream.length_pending_le hs₂) fun _ => hs₂)
  | case4 e s t s₁ hnext stack hdot name s₂ hname hkind =>
    refine .next hnext ?_
    simp only [hdot]
    refine .next hname ?_
    simp only [if_neg hkind]
    exact reaches_fail
  | case5 e s t s₁ hnext stack hleft hdepth =>
    refine .next hnext ?_
    simp only [hleft, if_pos hdepth]
    exact reaches_fail
  | case6 e s t s₁ hnext stack hleft hdepth err s₂ hfirst =>
    refine .next hnext ?_
    simp only [hleft, if_neg hdepth]
    exact reaches_next_error hfirst
  | case7 e s t s₁ hnext stack hleft hdepth first s₂ hfirst hend =>
    refine .next hnext ?_
    simp only [hleft, if_neg hdepth]
    refine .next hfirst ?_
    simp only [if_pos hend]
    exact reaches_fail
  | case8 e s t s₁ hnext stack hleft hdepth first s₂ hfirst hend cause hatom =>
    refine .next hnext ?_
    simp only [hleft, if_neg hdepth]
    refine .next hfirst ?_
    simp only [if_neg hend]
    refine .step rfl (.next rfl ?_)
    simp only [hatom]
    exact reaches_fail
  | case9 e s t s₁ hnext stack hleft hdepth first s₂ hfirst hend key hatom ih =>
    have hs₁ := Stream.pending_of_next_of_le hs hnext
    have hs₂ := Stream.pending_of_next hs₁ hfirst
    refine .next hnext ?_
    simp only [hleft, if_neg hdepth]
    refine .next hfirst ?_
    simp only [if_neg hend]
    refine .step rfl (.next rfl ?_)
    simp only [hatom]
    exact .step rfl (ih (Stream.length_pending_le hs₂) fun _ => hs₂)
  | case10 e s t s₁ hnext base stack hright ih =>
    have hs₁ := Stream.pending_of_next_of_le hs hnext
    have hclose : t.isOperator .rightBracket = true := decide_eq_true hright
    refine .next hnext ?_
    simp only [hright]
    refine .step rfl (.next rfl ?_)
    simp only [if_pos hclose]
    exact .step rfl (ih (Stream.length_pending_le hs₁) fun _ => hs₁)
  | case11 e s t s₁ hnext base stack hdot hleft hright =>
    have hclose : ¬ t.isOperator .rightBracket = true := by simpa [Token.isOperator] using hright
    refine .next hnext ?_
    cases hend : t.isEnd with
    | true =>
      have hagain := (Stream.next_of_isEnd (hstack (List.cons_ne_nil _ _)) hnext hend).2
      simp only [Token.isEnd_iff.1 hend]
      refine .next hagain ?_
      simp only [if_neg hclose]
      exact reaches_fail
    | false =>
      have hend' : t.kind ≠ .endMarker := mt Token.isEnd_iff.2 (by simp [hend])
      simp only
      refine .step rfl (.next rfl ?_)
      simp only [if_neg hclose]
      exact reaches_fail
  | case12 e s t s₁ hnext hdot hleft =>
    refine .next hnext ?_
    cases hend : t.isEnd with
    | true =>
      simp only [Token.isEnd_iff.1 hend]
      exact .refl
    | false =>
      have hend' : t.kind ≠ .endMarker := mt Token.isEnd_iff.2 (by simp [hend])
      simp only
      exact .step rfl .refl

/-- Calling the routine for trailers gives what the reader for trailers gives. -/
theorem reaches_trailers (hs : s.pending.length ≤ 1) :
    Reaches limit (running (.call (.trailers depth e) k) s)
      (behind k (Expr.parseTrailers limit depth e s)) :=
  reaches_pendingBrackets hs fun hstack : [] ≠ [] => absurd rfl hstack

/-- The same where the routine is the first part of a program. -/
theorem reaches_trailers_bind (hs : s.pending.length ≤ 1) :
    Reaches limit (running ((Program.call (.trailers depth e) .pure).bind k) s)
      (behind k (Expr.parseTrailers limit depth e s)) :=
  reaches_trailers hs

theorem reaches_expression (hs : s.pending.length ≤ 1) :
    Reaches limit (running ((Program.expression 0).bind k) s)
      (behind k (Expr.parse limit s)) := by
  cases hnext : s.next with
  | error err s₁ =>
    simp only [Expr.parse, Bind.bind, EStateM.bind, hnext]
    exact reaches_next_error hnext
  | ok t s₁ =>
    have hs₁ := Stream.pending_of_next_of_le hs hnext
    rw [Expr.parse_of_next hnext]
    refine .next hnext ?_
    cases hatom : Expr.atom t with
    | error cause =>
      simp only [hatom]
      exact reaches_fail
    | ok a =>
      simp only [hatom]
      exact reaches_trailers (Stream.length_pending_le hs₁)

/-- Where the machine goes on behind one argument more. -/
theorem behind_andThen {argument : Argument} {k : List Argument → Program α}
    (result : EStateM.Result Error Stream (List Argument)) :
    behind k (TagHeader.andThen argument result) =
      behind (fun arguments => k (argument :: arguments)) result := by
  cases result <;> rfl

section

variable {p : Program Expr} {argument : Expr → Argument} {k : List Argument → Program α}
  {result : EStateM.Result Error Stream Expr} {s₁ : Stream} {err : Error}
  (hp : ∀ k : Expr → Program α, Reaches limit (running (p.bind k) s) (behind k result))
include hp

/-- If an argument cannot be read, nothing behind it is. -/
theorem reaches_argument_error (hresult : result = .error err s₁) :
    Reaches limit (running ((p.bind fun e => Program.argumentsBehind (argument e)).bind k) s)
      (stopped (.error err s₁)) := by
  subst hresult
  rw [Program.bind_assoc]
  exact hp _

/-- If an argument is read, so are those behind it. -/
theorem reaches_argument (hresult : result = .ok e s₁)
    (hrest : ∀ k : List Argument → Program α, Reaches limit
      (running (Program.arguments.bind k) s₁) (behind k (TagHeader.arguments limit s₁))) :
    Reaches limit (running ((p.bind fun e => Program.argumentsBehind (argument e)).bind k) s)
      (behind k (TagHeader.andThen (argument e) (TagHeader.arguments limit s₁))) := by
  subst hresult
  rw [Program.bind_assoc, behind_andThen]
  exact (hp _).trans (.step rfl (hrest _))

end

/-- Calling the routine for arguments gives what the loop gives. -/
theorem reaches_arguments {k : List Argument → Program α} (hs : s.pending.length ≤ 1) :
    Reaches limit (running (.call .arguments k) s) (behind k (TagHeader.arguments limit s)) := by
  refine .step rfl ?_
  change Reaches limit (running (Program.arguments.bind k) s) _
  fun_induction TagHeader.arguments limit s generalizing k with
  | case1 s err s₁ hnext => exact reaches_next_error hnext
  | case2 s t s₁ hnext hend =>
    refine .next hnext ?_
    simp only [hend]
    exact .refl
  | case3 s t s₁ hnext hcomma ih =>
    have hs₁ := Stream.pending_of_next_of_le hs hnext
    refine .next hnext ?_
    simp only [hcomma]
    exact .step rfl (ih (Stream.length_pending_le hs₁))
  | case4 s t s₁ hnext hname err s₂ hfollower =>
    refine .next hnext ?_
    simp only [hname]
    exact reaches_next_error hfollower
  | case5 s t s₁ hnext hname follower s₂ hfollower hequal err s₃ hparse =>
    have hs₁ := Stream.pending_of_next_of_le hs hnext
    have hs₂ := Stream.length_pending_le (Stream.pending_of_next hs₁ hfollower)
    refine .next hnext ?_
    simp only [hname]
    refine .next hfollower ?_
    simp only [if_pos hequal]
    exact reaches_argument_error (fun k => reaches_expression hs₂) hparse
  | case6 s t s₁ hnext hname follower s₂ hfollower hequal e s₃ hparse ih =>
    have hs₁ := Stream.pending_of_next_of_le hs hnext
    have hs₂ := Stream.length_pending_le (Stream.pending_of_next hs₁ hfollower)
    have hs₃ := (Expr.holdsBack_of_parse hs₂ hparse).pending_le
    refine .next hnext ?_
    simp only [hname]
    refine .next hfollower ?_
    simp only [if_pos hequal]
    exact reaches_argument (fun k => reaches_expression hs₂) hparse fun k => ih hs₃
  | case7 s t s₁ hnext hname follower s₂ hfollower hequal err s₃ htrailers =>
    have hs₁ := Stream.pending_of_next_of_le hs hnext
    have hs₂ := Stream.length_pending_unread_le follower (Stream.pending_of_next hs₁ hfollower)
    refine .next hnext ?_
    simp only [hname]
    refine .next hfollower ?_
    simp only [if_neg hequal]
    exact .step rfl (reaches_argument_error (fun k => reaches_trailers_bind hs₂) htrailers)
  | case8 s t s₁ hnext hname follower s₂ hfollower hequal e s₃ htrailers ih =>
    have hs₁ := Stream.pending_of_next_of_le hs hnext
    have hs₂ := Stream.length_pending_unread_le follower (Stream.pending_of_next hs₁ hfollower)
    have hs₃ := (Expr.holdsBack_of_continueFrom hs₂ htrailers).pending_le
    refine .next hnext ?_
    simp only [hname]
    refine .next hfollower ?_
    simp only [if_neg hequal]
    exact .step rfl
      (reaches_argument (fun k => reaches_trailers_bind hs₂) htrailers fun k => ih hs₃)
  | case9 s t s₁ hnext err s₂ hparse hend hcomma hname =>
    have hs₁ := Stream.length_pending_unread_le t (Stream.pending_of_next_of_le hs hnext)
    refine .next hnext ?_
    simp only
    exact .step rfl (reaches_argument_error (fun k => reaches_expression hs₁) hparse)
  | case10 s t s₁ hnext e s₂ hparse hend hcomma hname ih =>
    have hs₁ := Stream.length_pending_unread_le t (Stream.pending_of_next_of_le hs hnext)
    have hs₂ := (Expr.holdsBack_of_parse hs₁ hparse).pending_le
    refine .next hnext ?_
    simp only
    exact .step rfl (reaches_argument (fun k => reaches_expression hs₁) hparse fun k => ih hs₂)

theorem reaches_tagArguments {name : String} {k : TagHeader → Program α}
    (hs : s.pending.length ≤ 1) :
    Reaches limit (running ((Program.tagArguments name).bind k) s)
      (behind k (TagHeader.parseArguments limit name s)) := by
  have hargs : Reaches limit (running ((Program.tagArguments name).bind k) s)
      (behind (fun args => k (.ofArguments name args)) (TagHeader.arguments limit s)) :=
    reaches_arguments hs
  rw [TagHeader.parseArguments_eq_bind]
  simp only [Bind.bind, EStateM.bind]
  generalize TagHeader.arguments limit s = result at hargs
  cases result <;> exact hargs

theorem reaches_tagName {k : Token → Program α} :
    Reaches limit (running (Program.tagName.bind k) s) (behind k (TagHeader.parseName s)) := by
  cases hnext : s.next with
  | error err s₁ =>
    simp only [TagHeader.parseName, Bind.bind, EStateM.bind, hnext]
    exact reaches_next_error hnext
  | ok t s₁ =>
    simp only [TagHeader.parseName, Bind.bind, EStateM.bind, hnext]
    refine .next hnext ?_
    by_cases hname : t.kind = .name
    · simp only [if_pos hname]
      exact .refl
    · simp only [if_neg hname]
      exact reaches_fail

theorem reaches_tagHeader {k : TagHeader → Program α} (hs : s.pending.length ≤ 1) :
    Reaches limit (running (Program.tagHeader.bind k) s)
      (behind k (TagHeader.parse limit s)) := by
  rw [Program.tagHeader, Program.bind_assoc]
  have hname : Reaches limit
      (running (Program.tagName.bind fun name => (Program.tagArguments name.text).bind k) s)
      (behind (fun name => (Program.tagArguments name.text).bind k) (TagHeader.parseName s)) :=
    reaches_tagName
  simp only [TagHeader.parse, Bind.bind, EStateM.bind]
  cases hresult : TagHeader.parseName s with
  | error err s₁ =>
    rw [hresult] at hname
    exact hname
  | ok name s₁ =>
    rw [hresult] at hname
    have hs₁ := Stream.pending_of_next_of_le hs (Stream.parseName_eq_ok_iff.1 hresult).1
    exact hname.trans (reaches_tagArguments (Stream.length_pending_le hs₁))

/-- With nothing left to do the machine stops with the result. -/
theorem reaches_stopped (result : EStateM.Result Error Stream α) :
    Reaches limit (behind .pure result) (stopped result) := by
  cases result with
  | ok a s => exact .step rfl .refl
  | error err s => exact .refl

end Config

/-! ### The readers keep to the discipline -/

namespace Program

variable {α : Type} {limit : Nat} {p : Program α} {f : Scan α} {s : Stream}

/-- A program comes to the result of a reader, and on the way there nothing is held back when a
token is pushed back, and never more than one token is held back. -/
structure Implements (limit : Nat) (p : Program α) (f : Scan α) (s : Stream) : Prop where
  reaches : Config.Reaches limit (.running p s) (.stopped (f s))
  pending_eq_nil : ∀ t rest s',
    Config.Reaches limit (.running p s) (.running (.unread t rest) s') → s'.pending = []
  pending_le : ∀ c, Config.Reaches limit (.running p s) c → c.stream.pending.length ≤ 1

theorem implements_of_reaches (hs : s.pending.length ≤ 1) (hp : p.Allows 1)
    (h : ∀ k : α → Program α,
      Config.Reaches limit (.running (p.bind k) s) (Config.behind k (f s))) :
    p.Implements limit f s := by
  have hstart : (Config.running p s).Orderly := .running (Nat.le_refl 1) hs hp
  have hrun := h pure
  rw [bind_pure] at hrun
  exact ⟨hrun.trans (Config.reaches_stopped _),
    fun _ _ _ hreaches => (Config.orderly_of_reaches hstart hreaches).pending_eq_nil,
    fun _ hreaches => (Config.orderly_of_reaches hstart hreaches).pending_le⟩

/-- All readers keep to the discipline of one token held back, on every stream with at most one such
token. Whatever the outcome is, at most one is left. Behind an expression it is the token at which
reading stopped, unless that was the end marker, and behind a tag header there is none. -/
theorem implements_readers (limit depth : Nat) (base : Expr) (name : String)
    (hs : s.pending.length ≤ 1) :
    (expression 0).Implements limit (Expr.parse limit) s ∧
      (call (.trailers depth base) pure).Implements limit
        (Expr.parseTrailers limit depth base) s ∧
      tagName.Implements limit TagHeader.parseName s ∧
      (tagArguments name).Implements limit (TagHeader.parseArguments limit name) s ∧
      tagHeader.Implements limit (TagHeader.parse limit) s ∧
      (∀ e s', Expr.parse limit s = .ok e s' → Expr.HoldsBack s s') ∧
      (∀ e s', Expr.parseTrailers limit depth base s = .ok e s' → Expr.HoldsBack s s') ∧
      (∀ H s', TagHeader.parseArguments limit name s = .ok H s' → s'.pending = []) ∧
      ∀ H s', TagHeader.parse limit s = .ok H s' → s'.pending = [] :=
  ⟨implements_of_reaches hs allows_expression fun _ => Config.reaches_expression hs,
    implements_of_reaches hs (.call fun _ => .pure) fun _ => Config.reaches_trailers_bind hs,
    implements_of_reaches hs allows_tagName fun _ => Config.reaches_tagName,
    implements_of_reaches hs allows_tagArguments fun _ => Config.reaches_tagArguments hs,
    implements_of_reaches hs allows_tagHeader fun _ => Config.reaches_tagHeader hs,
    fun _ _ h => Expr.holdsBack_of_parse hs h,
    fun _ _ h => Expr.holdsBack_of_continueFrom hs h,
    fun _ _ h => TagHeader.pending_of_parseArguments hs h,
    fun _ _ h => TagHeader.pending_of_parse hs h⟩

/-- A bracket is held back at first, and the token behind the index in the end. -/
theorem implements_readers_index :
    let s := (Stream.ofContent "b] c" ⟨1, 2⟩).unread ⟨.operator .leftBracket, "[", 0, 1, "[b] c"⟩
    s.pending.length ≤ 1 ∧
      (call (.trailers 0 (.lookup "a")) pure).Implements 1
        (Expr.parseTrailers 1 0 (.lookup "a")) s ∧
      ∃ s', Expr.parseTrailers 1 0 (.lookup "a") s =
          .ok (.item (.lookup "a") (.lookup "b")) s' ∧
        Expr.HoldsBack s s' ∧ s'.pending.length = 1 := by
  intro s
  have hs : s.pending.length ≤ 1 := Nat.le_refl 1
  obtain ⟨-, himplements, -, -, -, -, hholds, -⟩ :=
    implements_readers 1 0 (.lookup "a") "t" hs
  obtain ⟨s', hparse, hlength⟩ : ∃ s', Expr.parseTrailers 1 0 (.lookup "a") s =
      .ok (.item (.lookup "a") (.lookup "b")) s' ∧ s'.pending.length = 1 := by
    rw [Expr.parseTrailers, Expr.continueFrom_leftBracket rfl rfl (by decide) rfl rfl,
      Expr.continueFrom_rightBracket rfl rfl,
      Expr.continueFrom_stop rfl (by simp [Expr.StartsTrailer])]
    exact ⟨_, rfl, rfl⟩
  exact ⟨hs, himplements, s', hparse, hholds _ _ hparse, hlength⟩

end Program

end TextTemplate
