import TextTemplate.Proofs.Stream.Tokens

/-!
# Where readers fail

A reader fails when it has taken some tokens and finds that no token stands behind them, or one that
it refuses. Both are described without the text: the tokens that were taken can be completed by
further words so that the reader succeeds, and a token that is refused behind them is refused
whatever comes later. For the first it is enough to say which words a reader reads up to the end,
for the second which word it refuses behind which others, in every stream that delivers them.

The fault of a composite reader is that of one of its parts. Either the first part fails, or the
reader takes some tokens and goes on as another reader behind them. The latter may depend on the
token that comes next, since a reader can look one token ahead.

## Main definitions

* `Scan.ReadsAll`, `Scan.Refuses`: what a reader does with some words.
* `Scan.GoesOn`: behind some words a reader behaves like another one.
* `Scan.Fault`: why a reader fails behind the tokens that it has taken.
* `Scan.FailsBehind`: what can be said of a failure.

## Main results

* `Scan.FailsBehind.bind`: what fails in the first part of a reader fails in the whole.
* `Scan.FailsBehind.prepend`: what fails behind some words fails behind them from the start.
-/

namespace TextTemplate

/-- The kind of the token that comes first if some words are delivered up to the end. -/
def firstKind : List Word → Token.Kind
  | [] => .endMarker
  | w :: _ => w.1

namespace Stream

variable {s s' : Stream} {ts : List Token} {w : Word} {ws : List Word}

/-- Taking tokens for some words takes a token for the first one and then those for the others. -/
theorem Takes.exists_cons (h : s.Takes ts s') (hts : ts.map Token.word = w :: ws) :
    ∃ t us s₁, s.next = .ok t s₁ ∧ t.word = w ∧ s₁.Takes us s' ∧ us.map Token.word = ws := by
  obtain ⟨t, us, rfl, ht, hus⟩ := List.map_eq_cons_iff.1 hts
  obtain ⟨s₁, hnext, -, hrest⟩ := takes_cons_iff.1 h
  exact ⟨t, us, s₁, hnext, ht, hrest, hus⟩

theorem Takes.eq_of_nil (h : s.Takes ts s') (hts : ts.map Token.word = []) : s' = s := by
  obtain rfl := List.map_eq_nil_iff.1 hts
  exact takes_nil_iff.1 h

theorem Delivers.next_kind (h : s.Delivers ts none) :
    ∃ t s', s.next = .ok t s' ∧ (t.isEnd = true → s'.IsSpent) ∧
      t.kind = firstKind (ts.map Token.word) := by
  rcases h with ⟨hnext, ht, hspent⟩ | - | ⟨hnext, ht, -⟩
  · exact ⟨_, _, hnext, fun _ => hspent, Token.isEnd_iff.1 ht⟩
  · exact ⟨_, _, hnext, fun hend => by simp [ht] at hend, rfl⟩

theorem Takes.next_kind (h : s.Takes ts s') (hts : ts ≠ []) :
    ∃ t s₁, s.next = .ok t s₁ ∧ t.isEnd = false ∧ t.kind = firstKind (ts.map Token.word) := by
  cases h with
  | nil => exact absurd rfl hts
  | cons hnext ht _ => exact ⟨_, _, hnext, ht, rfl⟩

end Stream

namespace Scan

variable {α β : Type} {f f' : Scan α} {g : α → Scan β} {s s' : Stream} {us vs : List Token}
  {ws ws' : List Word} {w : Word} {cause : GrammarError} {err : Error} {P : Token.Kind → Prop}

/-! ### What a reader does with some words -/

/-- A reader succeeds with all of some words, in every stream that delivers them and no more. -/
def ReadsAll (f : Scan α) (ws : List Word) : Prop :=
  ∀ s ts, s.Delivers ts none → ts.map Token.word = ws →
    ∃ a s', f s = .ok a s' ∧ s'.Delivers [] none

/-- A reader reports a word behind some others, in every stream that delivers them. -/
def Refuses (f : Scan α) (ws : List Word) (w : Word) (cause : GrammarError) : Prop :=
  ∀ s ts s₁ t s₂, s.Takes ts s₁ → ts.map Token.word = ws → s₁.next = .ok t s₂ → t.word = w →
    t.isEnd = false → ∃ s', f s = .error (.grammar cause (s₂.locationOf t.start)) s'

/-- A reader that takes some words behaves like another one behind them, if there is a token behind
them and it is of one of some kinds. -/
def GoesOn (f : Scan α) (ws : List Word) (P : Token.Kind → Prop) (f' : Scan α) : Prop :=
  ∀ s ts s' t s₁, s.Takes ts s' → ts.map Token.word = ws → s'.next = .ok t s₁ →
    (t.isEnd = true → s₁.IsSpent) → P t.kind → f s = f' s'

theorem ReadsAll.bind (h : f.ReadsAll ws) (hg : ∀ a, (g a).ReadsAll []) :
    (f >>= g).ReadsAll ws := by
  intro s ts hs hts
  obtain ⟨a, s₁, hf, hs₁⟩ := h s ts hs hts
  obtain ⟨b, s', hb, hs'⟩ := hg a s₁ [] hs₁ rfl
  exact ⟨b, s', bind_eq_ok_iff.2 ⟨a, s₁, hf, hb⟩, hs'⟩

theorem Refuses.bind (h : f.Refuses ws w cause) : (f >>= g).Refuses ws w cause := by
  intro s ts s₁ t s₂ hs hts hnext ht hend
  obtain ⟨s', hf⟩ := h s ts s₁ t s₂ hs hts hnext ht hend
  exact ⟨s', bind_eq_error_iff.2 (Or.inl hf)⟩

theorem ReadsAll.prepend (h : f'.ReadsAll ws) (hgo : f.GoesOn ws' P f')
    (hfirst : P (firstKind ws)) : f.ReadsAll (ws' ++ ws) := by
  intro s ts hs hts
  obtain ⟨us, vs, rfl, hus, hvs⟩ := List.map_eq_append_iff.1 hts
  obtain ⟨s₁, htakes, hs₁⟩ := hs.exists_takes
  obtain ⟨t, s₂, hnext, hend, hkind⟩ := hs₁.next_kind
  rw [hgo s us s₁ t s₂ htakes hus hnext hend (by rwa [hkind, hvs])]
  exact h s₁ vs hs₁ hvs

theorem Refuses.prepend (h : f'.Refuses ws w cause) (hgo : f.GoesOn ws' P f')
    (hfirst : P (firstKind (ws ++ [w]))) : f.Refuses (ws' ++ ws) w cause := by
  intro s ts s₁ t s₂ hs hts hnext ht hend
  obtain ⟨us, vs, rfl, hus, hvs⟩ := List.map_eq_append_iff.1 hts
  obtain ⟨s₃, htakes, hs₃⟩ := Stream.takes_append_iff.1 hs
  have hall : s₃.Takes (vs ++ [t]) s₂ :=
    Stream.takes_append_iff.2 ⟨s₁, hs₃, .cons hnext hend .nil⟩
  obtain ⟨u, s₄, hu, huEnd, hkind⟩ := hall.next_kind (by simp)
  have hP : P u.kind := by
    rwa [hkind, List.map_append, hvs, List.map_singleton, ht]
  rw [hgo s us s₃ u s₄ htakes hus hu (fun hend => by simp [huEnd] at hend) hP]
  exact h s₃ vs s₁ t s₂ hs₃ hvs hnext ht hend

/-! ### Failures -/

/-- Why a reader fails behind the tokens that it has taken: there is no token, or the one that
stands there is reported. It is refused there whatever follows, except for a bracket that is
reported as unclosed, for which it matters that nothing follows. The end marker is not refused:
other words may stand in its place. -/
inductive Fault (f : Scan α) (s : Stream) (us : List Token) : Error → Prop where
  | lexical {s₁ s₂ : Stream} {err : Error} (hus : s.Takes us s₁) (h : s₁.next = .error err s₂) :
      Fault f s us err
  | refused {s₁ s₂ : Stream} {t : Token} {cause : GrammarError} (hus : s.Takes us s₁)
      (h : s₁.next = .ok t s₂) (hrefuses : cause ≠ .unclosedBracket → t.isEnd = false →
        f.Refuses (us.map Token.word) t.word cause) :
      Fault f s us (.grammar cause (s₂.locationOf t.start))

theorem Fault.bind (h : f.Fault s us err) : (f >>= g).Fault s us err := by
  cases h with
  | lexical hus h => exact .lexical hus h
  | refused hus h hrefuses => exact .refused hus h fun hcause hend => (hrefuses hcause hend).bind

theorem Fault.prepend (h : f'.Fault s' us err) (hgo : f.GoesOn (vs.map Token.word) P f')
    (hvs : s.Takes vs s') (hnext : ∀ t s₁, s'.next = .ok t s₁ → P t.kind) :
    f.Fault s (vs ++ us) err := by
  cases h with
  | lexical hus h => exact .lexical (Stream.takes_append_iff.2 ⟨_, hvs, hus⟩) h
  | @refused s₁ s₂ t _ hus h hrefuses =>
    refine .refused (Stream.takes_append_iff.2 ⟨_, hvs, hus⟩) h fun hcause hend => ?_
    have htakes : s'.Takes (us ++ [t]) s₂ :=
      Stream.takes_append_iff.2 ⟨s₁, hus, .cons h hend .nil⟩
    obtain ⟨u, s₃, hu, -, hkind⟩ := htakes.next_kind (by simp)
    have hfirst : P (firstKind (us.map Token.word ++ [t.word])) := by
      rw [List.map_append, List.map_singleton] at hkind
      exact hkind ▸ hnext u s₃ hu
    rw [List.map_append]
    exact (hrefuses hcause hend).prepend hgo hfirst

/-- A reader fails behind some tokens: further words complete them, and there is a fault. -/
structure FailsBehind (f : Scan α) (s : Stream) (us : List Token) (ws : List Word) (err : Error) :
    Prop where
  spells : ∀ w ∈ ws, Lexeme.Spells w.1 w.2.toList
  readsAll : f.ReadsAll (us.map Token.word ++ ws)
  fault : f.Fault s us err

/-- What fails in the first part of a reader fails in the whole. -/
theorem FailsBehind.bind (h : f.FailsBehind s us ws err) (hg : ∀ a, (g a).ReadsAll []) :
    (f >>= g).FailsBehind s us ws err :=
  ⟨h.spells, h.readsAll.bind hg, h.fault.bind⟩

/-- What fails behind some words fails behind them from the start. -/
theorem FailsBehind.prepend (h : f'.FailsBehind s' us ws err)
    (hgo : f.GoesOn (vs.map Token.word) P f') (hvs : s.Takes vs s')
    (hnext : ∀ t s₁, s'.next = .ok t s₁ → P t.kind)
    (hfirst : P (firstKind (us.map Token.word ++ ws))) :
    f.FailsBehind s (vs ++ us) ws err := by
  refine ⟨h.spells, ?_, h.fault.prepend hgo hvs hnext⟩
  rw [List.map_append, List.append_assoc]
  exact h.readsAll.prepend hgo hfirst

/-- The token that comes first where a reader fails is the one that would come if the words were
completed, as long as nothing is needed to complete them where there is no token. -/
theorem FailsBehind.first (h : f.FailsBehind s us ws err) (hws : us = [] → ws = [])
    (hend : P .endMarker) (hnext : ∀ t s₁, s.next = .ok t s₁ → P t.kind) :
    P (firstKind (us.map Token.word ++ ws)) := by
  cases us with
  | nil =>
    rw [hws rfl]
    exact hend
  | cons u us =>
    have hu : ∃ s₁, s.next = .ok u s₁ := by
      cases h.fault with
      | lexical hus _ | refused hus _ _ =>
        obtain ⟨s₁, hs₁, -⟩ := Stream.takes_cons_iff.1 hus
        exact ⟨s₁, hs₁⟩
    obtain ⟨s₁, hs₁⟩ := hu
    exact hnext u s₁ hs₁

end Scan

end TextTemplate
