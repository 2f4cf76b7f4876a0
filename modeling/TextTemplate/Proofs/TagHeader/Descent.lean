import TextTemplate.Proofs.Stream.Pushback

/-!
# Reading by recursive descent

The grammar suggests routines that call each other: an expression is read by reading its trailers,
and the key of an index is again an expression. A routine looks one token ahead. It pushes the token
back when it is not its own, so a token may be read and pushed back more than once: the token behind
a key is pushed back by the routine that reads the key and read again by the one that waits for the
closing bracket.

Such routines are written here as programs whose single steps can be observed: a token is delivered,
a token is pushed back, a routine is called. To go round a loop is to call the routine again. A
machine runs the programs. No routine ever holds back more than one token. This can be seen from the
programs: a token is pushed back only when one was just delivered, and no program relies on what the
routines that it calls have held back.

## Main definitions

* `Program`: programs of routines.
* `Routine`, `Routine.body`: the routines that call each other.
* `Program.expression`, `Program.tagName`, `Program.tagArguments`, `Program.tagHeader`: the programs
  for what is read as a whole.
* `Config`, `Config.step`, `Config.Reaches`: the machine.
* `Program.Allows`: how many tokens may be held back when a program runs.
* `Config.Orderly`: nothing is held back when a token is pushed back, and never more than one.

## Main results

* `Config.orderly_of_step`: a step keeps to the discipline.
* `Config.orderly_of_reaches`: so does a run.
-/

namespace TextTemplate

theorem Stream.length_pending_le {s : Stream} (hs : s.pending = []) : s.pending.length ≤ 1 := by
  rw [hs]
  exact Nat.zero_le 1

theorem Stream.length_pending_unread_le {s : Stream} (t : Token) (hs : s.pending = []) :
    (s.unread t).pending.length ≤ 1 := by
  rw [unread, hs]
  exact Nat.le_refl 1

/-- Nothing is held back behind a token that is delivered. -/
theorem Stream.pending_of_next_of_le {s s' : Stream} {t : Token} (hs : s.pending.length ≤ 1)
    (h : s.next = .ok t s') : s'.pending = [] := by
  match hpending : s.pending with
  | [] => exact pending_of_next hpending h
  | [u] =>
    rw [next, hpending] at h
    cases h
    rfl
  | u :: v :: us =>
    rw [hpending, List.length_cons, List.length_cons] at hs
    omega

/-! ### Programs -/

/-- The routines that call each other. -/
inductive Routine where
  /-- Reads the trailers of an expression that lies within some open brackets. -/
  | trailers (depth : Nat) (e : Expr)
  /-- Reads arguments up to the end of the text. -/
  | arguments

/-- What a routine returns. -/
abbrev Routine.Result : Routine → Type
  | trailers _ _ => Expr
  | arguments => List Argument

/-- A program that reads a stream. It returns a value, or it fails for a reason that concerns a
token, or it makes one step and goes on. -/
inductive Program (α : Type) where
  | pure (a : α)
  | fail (cause : GrammarError) (t : Token)
  /-- Has a token delivered. -/
  | next (k : Token → Program α)
  /-- Pushes a token back. -/
  | unread (t : Token) (rest : Program α)
  /-- Calls a routine. -/
  | call (r : Routine) (k : r.Result → Program α)

namespace Program

variable {α β : Type}

/-- Goes on behind a program. -/
def bind : Program α → (α → Program β) → Program β
  | pure a, f => f a
  | fail cause t, _ => fail cause t
  | next k, f => next fun t => (k t).bind f
  | unread t rest, f => unread t (rest.bind f)
  | call r k, f => call r fun a => (k a).bind f

theorem bind_assoc {γ : Type} (p : Program α) (f : α → Program β) (g : β → Program γ) :
    (p.bind f).bind g = p.bind fun a => (f a).bind g := by
  induction p with
  | pure => rfl
  | fail => rfl
  | next _ ih => exact congrArg next (funext ih)
  | unread t _ ih => exact congrArg (unread t) ih
  | call r _ ih => exact congrArg (call r) (funext ih)

theorem bind_pure (p : Program α) : p.bind pure = p := by
  induction p with
  | pure => rfl
  | fail => rfl
  | next _ ih => exact congrArg next (funext ih)
  | unread t _ ih => exact congrArg (unread t) ih
  | call r _ ih => exact congrArg (call r) (funext ih)

/-- Fails because of a token that stands where something else was expected. -/
def unexpected (expected : Expectation) (t : Token) : Program α :=
  fail (.unexpected expected t.describe) t

/-- Reads an expression that lies within some open brackets. -/
def expression (depth : Nat) : Program Expr :=
  next fun t =>
    match Expr.atom t with
    | .error cause => fail cause t
    | .ok e => call (.trailers depth e) pure

/-- Reads the closing bracket behind a key, and the trailers behind it. -/
def closeBracket (depth : Nat) (base key : Expr) : Program Expr :=
  next fun close =>
    if close.isOperator .rightBracket then call (.trailers depth (.item base key)) pure
    else unexpected .closingBracket close

/-- Reads the trailers of an expression: one of them and those behind it, or none. -/
def trailers (limit depth : Nat) (e : Expr) : Program Expr :=
  next fun t =>
    match t.kind with
    | .endMarker => pure e
    | .operator .dot => next fun name =>
      if name.kind = .name then call (.trailers depth (.member e name.text)) pure
      else unexpected .nameAfterDot name
    | .operator .leftBracket =>
      if limit ≤ depth then fail (.nestingTooDeep limit) t
      else next fun first =>
        if first.isEnd then fail .unclosedBracket t
        else unread first ((expression (depth + 1)).bind (closeBracket depth e))
    | _ => unread t (pure e)

/-- Reads the arguments behind a given one. -/
def argumentsBehind (argument : Argument) : Program (List Argument) :=
  call .arguments fun arguments => pure (argument :: arguments)

/-- Reads arguments: one of them and those behind it, or none. -/
def arguments : Program (List Argument) :=
  next fun t =>
    match t.kind with
    | .endMarker => pure []
    | .operator .comma => call .arguments pure
    | .name => next fun follower =>
      if follower.isOperator .equal then
        (expression 0).bind fun e => argumentsBehind (.keyword t.text e)
      else
        unread follower (call (.trailers 0 (.lookup t.text)) fun e =>
          argumentsBehind (.positional e))
    | _ => unread t ((expression 0).bind fun e => argumentsBehind (.positional e))

/-- Reads the name of a tag. -/
def tagName : Program Token :=
  next fun t => if t.kind = .name then pure t else unexpected .tagName t

/-- Reads the arguments of a tag whose name has been read. -/
def tagArguments (name : String) : Program TagHeader :=
  call .arguments fun arguments => pure (.ofArguments name arguments)

/-- Reads a whole header. -/
def tagHeader : Program TagHeader :=
  tagName.bind fun name => tagArguments name.text

end Program

/-- What a routine does when it is called. -/
def Routine.body (limit : Nat) : (r : Routine) → Program r.Result
  | trailers depth e => .trailers limit depth e
  | arguments => .arguments

/-! ### The machine -/

/-- A state of the machine: what is left to do, and the stream that is read, or a result. -/
inductive Config (α : Type) where
  | running (p : Program α) (s : Stream)
  | stopped (result : EStateM.Result Error Stream α)

namespace Config

variable {α β : Type} {limit depth : Nat} {s s' s₁ : Stream} {t : Token} {c c' c'' : Config α}
  {e : Expr}

/-- One step of the machine, unless it has stopped. -/
def step (limit : Nat) : Config α → Option (Config α)
  | running (.pure a) s => some (stopped (.ok a s))
  | running (.fail cause t) s => some (stopped (Stream.fail cause t s))
  | running (.next k) s =>
    match s.next with
    | .ok t s' => some (running (k t) s')
    | .error err s' => some (stopped (.error err s'))
  | running (.unread t rest) s => some (running rest (s.unread t))
  | running (.call r k) s => some (running ((r.body limit).bind k) s)
  | stopped _ => none

/-- The machine comes from one state to another one. -/
inductive Reaches (limit : Nat) : Config α → Config α → Prop where
  | refl {c : Config α} : Reaches limit c c
  | step {c c' c'' : Config α} (h : c.step limit = some c') (hrest : Reaches limit c' c'') :
      Reaches limit c c''

theorem Reaches.trans (h : Reaches limit c c') (h' : Reaches limit c' c'') :
    Reaches limit c c'' := by
  induction h with
  | refl => exact h'
  | step hstep _ ih => exact .step hstep (ih h')

theorem Reaches.next {k : Token → Program α} (hnext : s.next = .ok t s')
    (h : Reaches limit (running (k t) s') c) : Reaches limit (running (.next k) s) c :=
  .step (by rw [Config.step, hnext]) h

theorem reaches_next_error {k : Token → Program α} {err : Error} (hnext : s.next = .error err s') :
    Reaches limit (running (.next k) s) (stopped (.error err s')) :=
  .step (by rw [Config.step, hnext]) .refl

theorem reaches_fail {cause : GrammarError} :
    Reaches limit (running (.fail cause t : Program α) s) (stopped (Stream.fail cause t s)) :=
  .step rfl .refl

/-- The stream of a state. -/
def stream : Config α → Stream
  | running _ s => s
  | stopped (.ok _ s) => s
  | stopped (.error _ s) => s

end Config

/-! ### The discipline -/

namespace Program

variable {α β : Type} {limit depth n : Nat} {e base key : Expr}

/-- A program may run while at most some number of tokens, one or none, are held back. Before it
pushes a token back, nothing may be held back. Behind a token that is delivered nothing is, and
behind a routine there may be a token. -/
inductive Allows : Nat → Program α → Prop where
  | pure {n : Nat} {a : α} : Allows n (pure a)
  | fail {n : Nat} {cause : GrammarError} {t : Token} : Allows n (fail cause t)
  | next {n : Nat} {k : Token → Program α} (h : ∀ t, Allows 0 (k t)) : Allows n (next k)
  | unread {t : Token} {rest : Program α} (h : Allows 1 rest) : Allows 0 (unread t rest)
  | call {n : Nat} {r : Routine} {k : r.Result → Program α} (h : ∀ a, Allows 1 (k a)) :
      Allows n (call r k)

/-- What may run with one token held back does not begin by pushing another one back. -/
theorem Allows.of_one {p : Program α} (h : p.Allows 1) : p.Allows n := by
  cases h with
  | pure => exact .pure
  | fail => exact .fail
  | next h => exact .next h
  | call h => exact .call h

theorem Allows.bind {p : Program α} {f : α → Program β} (h : p.Allows n)
    (hf : ∀ a, (f a).Allows 1) : (p.bind f).Allows n := by
  induction h with
  | pure => exact (hf _).of_one
  | fail => exact .fail
  | next _ ih => exact .next ih
  | unread _ ih => exact .unread ih
  | call _ ih => exact .call ih

theorem allows_expression : (expression depth).Allows n := by
  refine .next fun t => ?_
  cases Expr.atom t with
  | error cause => exact .fail
  | ok e => exact .call fun _ => .pure

theorem allows_closeBracket : (closeBracket depth base key).Allows n := by
  refine .next fun close => ?_
  split
  · exact .call fun _ => .pure
  · exact .fail

theorem allows_trailers : (trailers limit depth e).Allows n := by
  refine .next fun t => ?_
  split
  · exact .pure
  · refine .next fun name => ?_
    split
    · exact .call fun _ => .pure
    · exact .fail
  · split
    · exact .fail
    · refine .next fun first => ?_
      split
      · exact .fail
      · exact .unread (allows_expression.bind fun _ => allows_closeBracket)
  · exact .unread .pure

theorem allows_argumentsBehind {argument : Argument} : (argumentsBehind argument).Allows n :=
  .call fun _ => .pure

theorem allows_arguments : arguments.Allows n := by
  refine .next fun t => ?_
  split
  · exact .pure
  · exact .call fun _ => .pure
  · refine .next fun follower => ?_
    split
    · exact allows_expression.bind fun _ => allows_argumentsBehind
    · exact .unread (.call fun _ => allows_argumentsBehind)
  · exact .unread (allows_expression.bind fun _ => allows_argumentsBehind)

theorem allows_body (limit : Nat) (r : Routine) : (r.body limit).Allows n := by
  cases r with
  | trailers depth e => exact allows_trailers
  | arguments => exact allows_arguments

theorem allows_tagName : tagName.Allows n := by
  refine .next fun t => ?_
  split
  · exact .pure
  · exact .fail

theorem allows_tagArguments {name : String} : (tagArguments name).Allows n :=
  .call fun _ => .pure

theorem allows_tagHeader : tagHeader.Allows n :=
  allows_tagName.bind fun _ => allows_tagArguments

end Program

namespace Config

variable {α : Type} {limit : Nat} {s : Stream} {t : Token} {p : Program α} {c c' : Config α}

/-- What is left to do may run with the tokens that are held back, of which there is at most one. -/
inductive Orderly : Config α → Prop where
  | running {p : Program α} {s : Stream} {n : Nat} (hn : n ≤ 1) (hs : s.pending.length ≤ n)
      (hp : p.Allows n) : Orderly (running p s)
  | stopped {result : EStateM.Result Error Stream α}
      (hs : (stopped result).stream.pending.length ≤ 1) : Orderly (stopped result)

theorem Orderly.pending_le (h : c.Orderly) : c.stream.pending.length ≤ 1 := by
  cases h with
  | running hn hs _ => exact Nat.le_trans hs hn
  | stopped hs => exact hs

/-- Nothing is held back when a token is pushed back. -/
theorem Orderly.pending_eq_nil (h : (Config.running (.unread t p) s).Orderly) : s.pending = [] := by
  cases h with
  | running _ hs hp =>
    cases hp
    exact List.length_eq_zero_iff.1 (Nat.le_zero.1 hs)

/-- A step keeps to the discipline. -/
theorem orderly_of_step (h : c.Orderly) (hstep : c.step limit = some c') : c'.Orderly := by
  cases h with
  | stopped _ => cases hstep
  | @running p s n hn hs hp =>
    have hone : s.pending.length ≤ 1 := Nat.le_trans hs hn
    cases hp with
    | pure =>
      cases hstep
      exact .stopped hone
    | fail =>
      cases hstep
      exact .stopped hone
    | @next n k hk =>
      cases hnext : s.next with
      | ok t s' =>
        simp only [step, hnext] at hstep
        cases hstep
        have hs' : s'.pending = [] := Stream.pending_of_next_of_le hone hnext
        exact .running (Nat.zero_le 1) (by rw [hs', List.length_nil]) (hk t)
      | error err s' =>
        simp only [step, hnext] at hstep
        cases hstep
        obtain ⟨rfl, -⟩ := Stream.eq_of_next_eq_error hnext
        exact .stopped hone
    | unread hrest =>
      cases hstep
      exact .running (Nat.le_refl 1) (Nat.succ_le_succ hs) hrest
    | call hk =>
      cases hstep
      exact .running (Nat.le_refl 1) hone ((Program.allows_body limit _).bind hk)

/-- A run keeps to the discipline. -/
theorem orderly_of_reaches (h : c.Orderly) (hrun : Reaches limit c c') : c'.Orderly := by
  induction hrun with
  | refl => exact h
  | step hstep _ ih => exact ih (orderly_of_step h hstep)

end Config

end TextTemplate
