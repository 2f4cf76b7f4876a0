import TextTemplate.Plan.Assembly

/-!
# What a token stream delivers

A stream is described by the tokens that it delivers one after the other, up to the end marker or up
to the first place where no token stands. Readers are then described by the tokens that they take
and by what the stream delivers behind them, so that offsets and locations do not come into it.

## Main definitions

* `Stream.AtEnd`: the next token is the end marker.
* `Stream.Delivers`: the tokens that a stream delivers before the end marker.
* `Word`, `Token.word`: the kind and the text of a token, without its place.
* `Span.stream`: the stream of the content of a span.

## Main results

* `Scan.bind_eq_ok_iff`: how a composite reader succeeds.
* `Stream.Delivers.unread`: a token that is pushed back is delivered first.
-/

namespace TextTemplate

/-! ### Composite readers -/

namespace Scan

variable {α β : Type} {x : Scan α} {f : α → Scan β} {s s' : Stream}

/-- A composite reader succeeds if both of its parts do, the second one where the first stopped. -/
theorem bind_eq_ok_iff {b : β} :
    (x >>= f) s = .ok b s' ↔ ∃ a s₁, x s = .ok a s₁ ∧ f a s₁ = .ok b s' := by
  cases h : x s <;> simp [bind, EStateM.bind, h, and_assoc]

/-- A composite reader fails if one of its parts does. -/
theorem bind_eq_error_iff {err : Error} :
    (x >>= f) s = .error err s' ↔
      x s = .error err s' ∨ ∃ a s₁, x s = .ok a s₁ ∧ f a s₁ = .error err s' := by
  cases h : x s <;> simp [bind, EStateM.bind, h, and_assoc]

theorem pure_eq_ok_iff {a b : α} : (pure a : Scan α) s = .ok b s' ↔ a = b ∧ s = s' := by
  simp [pure, EStateM.pure]

end Scan

/-- A kind of token and its text. -/
abbrev Word := Token.Kind × String

namespace Word

/-- The word of an operator. -/
def ofOperator (op : Operator) : Word := (.operator op, op.text)

/-- The word of a name. -/
def ofName (name : String) : Word := (.name, name)

end Word

/-- The kind and the text of a token. -/
def Token.word (t : Token) : Word :=
  (t.kind, t.text)

theorem Token.isEnd_iff {t : Token} : t.isEnd = true ↔ t.kind = .endMarker := by
  simp [Token.isEnd]

/-- The stream of the content of a span. -/
def Span.stream (span : Span) : Stream :=
  Stream.ofContent span.content span.contentLocation

/-- A reader succeeds on the content of a span if it does so on the stream of the content. -/
theorem Compiler.readSpan_eq_ok_iff {α : Type} {reader : Scan α} {span : Span} {a : α} :
    readSpan reader span = .ok a ↔ ∃ s, reader span.stream = .ok a s := by
  unfold readSpan Span.stream
  split <;> simp_all

theorem Compiler.readSpan_eq_error_iff {α : Type} {reader : Scan α} {span : Span} {err : Error} :
    readSpan reader span = .error err ↔ ∃ s, reader span.stream = .error err s := by
  unfold readSpan Span.stream
  split <;> simp_all

namespace Stream

variable {s s' : Stream} {t : Token} {ts : List Token}

/-- Nothing is left before the end marker. -/
def AtEnd (s : Stream) : Prop :=
  ∃ t s', s.next = .ok t s' ∧ t.isEnd = true

theorem expectEnd_eq_ok_iff {u : Unit} :
    expectEnd s = .ok u s' ↔ ∃ t, s.next = .ok t s' ∧ t.isEnd = true := by
  rw [expectEnd, Scan.bind_eq_ok_iff]
  constructor
  · rintro ⟨t, s₁, hnext, h⟩
    split at h
    · next ht =>
      obtain ⟨-, rfl⟩ := Scan.pure_eq_ok_iff.1 h
      exact ⟨t, hnext, ht⟩
    · cases h
  · rintro ⟨t, hnext, ht⟩
    exact ⟨t, s', hnext, by rw [if_pos ht]; rfl⟩

theorem parseName_eq_ok_iff :
    TagHeader.parseName s = .ok t s' ↔ s.next = .ok t s' ∧ t.kind = .name := by
  rw [TagHeader.parseName, Scan.bind_eq_ok_iff]
  constructor
  · rintro ⟨t', s₁, hnext, h⟩
    split at h
    · next ht =>
      obtain ⟨rfl, rfl⟩ := Scan.pure_eq_ok_iff.1 h
      exact ⟨hnext, ht⟩
    · cases h
  · rintro ⟨hnext, ht⟩
    exact ⟨t, s', hnext, by rw [if_pos ht]; rfl⟩

/-! ### The tokens that are delivered -/

/-- The end marker has been read, and nothing is left to be delivered again. -/
structure IsSpent (s : Stream) : Prop where
  finished_eq_true : s.finished = true
  pending_eq_nil : s.pending = []

/-- A spent stream delivers the end marker for ever. -/
theorem IsSpent.next_eq (h : s.IsSpent) : s.next = .ok s.endMarker s := by
  rw [next, h.pending_eq_nil]
  simp only [scan, h.finished_eq_true, if_true]

/-- The tokens that a stream delivers, up to the end marker, behind which nothing comes, or up to
the error that is reported where no token stands. -/
inductive Delivers : Stream → List Token → Option Error → Prop where
  | finish {s s' : Stream} {t : Token} (h : s.next = .ok t s') (ht : t.isEnd = true)
      (hs' : s'.IsSpent) : Delivers s [] none
  | fault {s s' : Stream} {err : Error} (h : s.next = .error err s') : Delivers s [] (some err)
  | cons {s s' : Stream} {t : Token} {ts : List Token} {fault : Option Error}
      (h : s.next = .ok t s') (ht : t.isEnd = false) (hs' : Delivers s' ts fault) :
      Delivers s (t :: ts) fault

theorem delivers_cons_iff {fault : Option Error} :
    Delivers s (t :: ts) fault ↔
      ∃ s', s.next = .ok t s' ∧ t.isEnd = false ∧ Delivers s' ts fault := by
  constructor
  · rintro (_ | _ | ⟨h, ht, hs'⟩)
    exact ⟨_, h, ht, hs'⟩
  · rintro ⟨s', h, ht, hs'⟩
    exact .cons h ht hs'

theorem delivers_nil_iff :
    Delivers s [] none ↔ ∃ t s', s.next = .ok t s' ∧ t.isEnd = true ∧ s'.IsSpent := by
  constructor
  · rintro (⟨h, ht, hs'⟩ | _)
    exact ⟨_, _, h, ht, hs'⟩
  · rintro ⟨t, s', h, ht, hs'⟩
    exact .finish h ht hs'

/-- The next token is the first one that is delivered. -/
theorem Delivers.eq_cons {fault : Option Error} (h : Delivers s ts fault)
    (hnext : s.next = .ok t s') (ht : t.isEnd = false) :
    ∃ us, ts = t :: us ∧ Delivers s' us fault := by
  rcases h with ⟨hnext', hend, -⟩ | hnext' | ⟨hnext', -, hs'⟩ <;> rw [hnext] at hnext' <;>
    cases hnext'
  · simp [ht] at hend
  · exact ⟨_, rfl, hs'⟩

/-- Nothing is delivered before the end marker. -/
theorem Delivers.eq_nil {fault : Option Error} (h : Delivers s ts fault)
    (hnext : s.next = .ok t s') (ht : t.isEnd = true) : ts = [] ∧ fault = none ∧ s'.IsSpent := by
  rcases h with ⟨hnext', -, hspent⟩ | hnext' | ⟨hnext', hend, -⟩ <;> rw [hnext] at hnext' <;>
    cases hnext'
  · exact ⟨rfl, rfl, hspent⟩
  · simp [ht] at hend

theorem IsSpent.delivers (h : s.IsSpent) : Delivers s [] none :=
  .finish h.next_eq rfl h

/-- A token that is pushed back is delivered first. -/
theorem Delivers.unread {fault : Option Error} (h : Delivers s ts fault) (ht : t.isEnd = false) :
    Delivers (s.unread t) (t :: ts) fault :=
  .cons rfl ht h

/-- Without a fault there is a next token, the first one that is delivered or the end marker. -/
theorem Delivers.exists_next (h : Delivers s ts none) :
    ∃ t s', s.next = .ok t s' ∧ (t ∈ ts.head? ∨ t.isEnd = true) := by
  rcases h with ⟨hnext, ht, -⟩ | - | ⟨hnext, -, -⟩
  · exact ⟨_, _, hnext, Or.inr ht⟩
  · exact ⟨_, _, hnext, Or.inl rfl⟩

theorem Delivers.atEnd (h : Delivers s [] none) : s.AtEnd := by
  obtain ⟨t, s', hnext, ht, -⟩ := delivers_nil_iff.1 h
  exact ⟨t, s', hnext, ht⟩

end Stream

end TextTemplate
