import TextTemplate.Proofs.Lexeme.Spelling
import TextTemplate.Proofs.Span.Decomposition
import TextTemplate.Proofs.Stream.Delivery

/-!
# Words apart

Words that are written with a blank before each of them and one behind the last are read back as
they are. Neither does the text of a marker that is written in this way end too early: its closing
delimiter has no blank in it, so it could only stand inside a word.

## Main definitions

* `Stream.spaced`: some words with blanks between them.

## Main results

* `Stream.closesOnce_spaced`: the text holds no closing delimiter unless a word does.
* `Stream.delivers_spaced`: where the text stands, a stream delivers the words.
-/

namespace TextTemplate

namespace Marker

variable {m : Marker} {cs body : List Char}

theorem not_closer_prefix_blank (m : Marker) (cs : List Char) : ¬ m.closer <+: ' ' :: cs := by
  rintro ⟨post, h⟩
  have hsign : m.closingSign = ' ' := (List.cons.inj h).1
  cases m <;> exact absurd hsign (by decide)

/-- In front of a blank there may stand whatever holds no closing delimiter. -/
theorem closesOnce_append_blank (hcs : ¬ m.closer <:+: cs) (hbody : m.ClosesOnce (' ' :: body)) :
    m.ClosesOnce (cs ++ ' ' :: body) := by
  induction cs with
  | nil => exact hbody
  | cons a cs ih =>
    rw [List.infix_cons_iff, not_or] at hcs
    refine closesOnce_cons_iff.2 ⟨?_, ih hcs.2⟩
    rintro ⟨post, h⟩
    cases cs with
    | nil =>
      -- the second character of the delimiter would be the blank
      have hblank : '}' = ' ' := (List.cons.inj (List.cons.inj h).2).1
      exact absurd hblank (by decide)
    | cons b cs =>
      have ha : m.closingSign = a := (List.cons.inj h).1
      have hb : '}' = b := (List.cons.inj (List.cons.inj h).2).1
      exact hcs.1 ⟨cs, by rw [← ha, ← hb]; rfl⟩

end Marker

namespace Stream

variable {s : Stream} {gap : List Char} {w : Word} {words : List Word}

/-- Some words, with a blank before each of them and one behind the last. -/
def spaced : List Word → List Char
  | [] => [' ']
  | w :: words => ' ' :: (w.2.toList ++ spaced words)

theorem exists_spaced_eq (words : List Word) : ∃ cs, spaced words = ' ' :: cs := by
  cases words <;> exact ⟨_, rfl⟩

/-- The text holds no closing delimiter unless a word does. -/
theorem closesOnce_spaced {m : Marker} (h : ∀ w ∈ words, ¬ m.closer <:+: w.2.toList) :
    m.ClosesOnce (spaced words) := by
  induction words with
  | nil => exact Marker.closesOnce_cons_iff.2 ⟨m.not_closer_prefix_blank _, m.closesOnce_nil⟩
  | cons w words ih =>
    have hrest := ih fun v hv => h v (List.mem_cons_of_mem _ hv)
    obtain ⟨cs, hcs⟩ := exists_spaced_eq words
    rw [hcs] at hrest
    rw [spaced, hcs]
    exact Marker.closesOnce_cons_iff.2 ⟨m.not_closer_prefix_blank _,
      Marker.closesOnce_append_blank (h w List.mem_cons_self) hrest⟩

/-- The next word is delivered, and the stream goes on behind it. -/
theorem next_spaced_cons (hw : Lexeme.Spells w.1 w.2.toList)
    (hgap : ∀ c ∈ gap, Lexeme.isBlank c = true) (hrest : s.rest = gap ++ spaced (w :: words))
    (hfinished : s.finished = false) (hpending : s.pending = []) :
    ∃ t s', s.next = .ok t s' ∧ t.word = w ∧ s'.rest = spaced words ∧ s'.finished = false ∧
      s'.pending = [] := by
  obtain ⟨kind, text⟩ := w
  obtain ⟨c, ds, hcons, hblank⟩ := hw.exists_cons
  obtain ⟨cs, hcs⟩ := exists_spaced_eq words
  have hfront := Lexeme.front?_append_blank hw cs
  have hahead : s.ahead = c :: (ds ++ ' ' :: cs) := by
    rw [ahead, hrest, List.dropWhile_append_of_pos hgap, spaced,
      List.dropWhile_cons_of_pos (by rfl), hcs, hcons, List.cons_append,
      List.dropWhile_cons_of_neg (by simp [hblank])]
  rw [hcons, List.cons_append] at hfront
  simp only [next, hpending, scan, hfinished, Bool.false_eq_true, if_false, hahead, hfront]
  refine ⟨_, _, rfl, ?_, hcs.symm, rfl, rfl⟩
  rw [Token.word, ← hcons, String.ofList_toList]

/-- Where the words stand behind some blanks, a stream delivers them. -/
theorem delivers_spaced (hwords : ∀ w ∈ words, Lexeme.Spells w.1 w.2.toList)
    (hgap : ∀ c ∈ gap, Lexeme.isBlank c = true) (hrest : s.rest = gap ++ spaced words)
    (hfinished : s.finished = false) (hpending : s.pending = []) :
    ∃ ts, ts.map Token.word = words ∧ s.Delivers ts none := by
  induction words generalizing s gap with
  | nil =>
    have hahead : s.ahead = [] := by
      rw [ahead, hrest, List.dropWhile_append_of_pos hgap]
      rfl
    refine ⟨[], rfl, ?_⟩
    have hnext : ∃ t s', s.next = .ok t s' ∧ t.isEnd = true ∧ s'.IsSpent := by
      simp only [next, hpending, scan, hfinished, Bool.false_eq_true, if_false, hahead]
      exact ⟨_, _, rfl, rfl, ⟨rfl, rfl⟩⟩
    obtain ⟨t, s', hnext, ht, hspent⟩ := hnext
    exact .finish hnext ht hspent
  | cons w words ih =>
    have hw := hwords w List.mem_cons_self
    obtain ⟨t, s', hnext, hword, hrest', hfinished', hpending'⟩ :=
      next_spaced_cons hw hgap hrest hfinished hpending
    obtain ⟨ts, hts, hdelivers⟩ := ih (fun v hv => hwords v (List.mem_cons_of_mem _ hv))
      (List.forall_mem_nil _) hrest' hfinished' hpending'
    have hend : t.isEnd = false := by
      have hkind : t.kind = w.1 := congrArg Prod.fst hword
      rw [Bool.eq_false_iff]
      intro hend
      rw [← hkind, Token.isEnd_iff.1 hend] at hw
      cases hw
    exact ⟨t :: ts, by rw [List.map_cons, hword, hts], .cons hnext hend hdelivers⟩

end Stream

end TextTemplate
