/-!
# Lines of a text

Lines are separated by line feeds, which belong to no line.

## Main definitions

* `firstLine`, `lastLine`: the first and the last line of a text.

## Main results

* `firstLine_append`, `lastLine_append`: what stands on the same line goes with it.
* `exists_eq_append_lastLine`: what stands before the last line.
-/

namespace TextTemplate

variable {cs ds : List Char}

/-- The characters of the first line of a text. -/
def firstLine (cs : List Char) : List Char :=
  cs.takeWhile (· ≠ '\n')

/-- The characters of the last line of a text. -/
def lastLine (cs : List Char) : List Char :=
  (cs.reverse.takeWhile (· ≠ '\n')).reverse

theorem firstLine_append (h : '\n' ∉ cs) : firstLine (cs ++ ds) = cs ++ firstLine ds := by
  refine List.takeWhile_append_of_pos fun c hc => ?_
  exact decide_eq_true fun heq => h (heq ▸ hc)

theorem lastLine_append (h : '\n' ∉ ds) : lastLine (cs ++ ds) = lastLine cs ++ ds := by
  have hall : ∀ c ∈ ds.reverse, decide (c ≠ '\n') = true := fun c hc =>
    decide_eq_true fun heq => h (heq ▸ List.mem_reverse.1 hc)
  rw [lastLine, List.reverse_append, List.takeWhile_append_of_pos hall, List.reverse_append,
    List.reverse_reverse, lastLine]

theorem lastLine_concat_newline : lastLine (cs ++ ['\n']) = [] := by
  rw [lastLine, List.reverse_append, List.reverse_singleton, List.singleton_append,
    List.takeWhile_cons_of_neg (by decide), List.reverse_nil]

theorem newline_not_mem_lastLine (cs : List Char) : '\n' ∉ lastLine cs := by
  intro h
  have hne := List.all_eq_true.1 (List.all_takeWhile (l := cs.reverse)) _ (List.mem_reverse.1 h)
  simp at hne

/-- Before the last line there is a line feed, if there is any. -/
theorem exists_eq_append_lastLine (h : '\n' ∈ cs) :
    ∃ front, cs = front ++ ['\n'] ++ lastLine cs := by
  obtain ⟨bs, ds, hreverse, hbs⟩ := List.eq_append_cons_of_mem (List.mem_reverse.2 h)
  have hcs : cs = ds.reverse ++ ['\n'] ++ bs.reverse := by
    rw [← List.reverse_reverse cs, hreverse]
    simp
  refine ⟨ds.reverse, ?_⟩
  rw [hcs, lastLine_append (mt List.mem_reverse.1 hbs), lastLine_concat_newline, List.nil_append]

end TextTemplate
