import TextTemplate.Text.Line

/-!
# Locations in a text

A location names a point of a text by its line and its column, both counted from one. Columns count
characters, and only a line feed begins a new line.

## Main definitions

* `Location.start`: the location of the first character of a text.
* `Location.advance`: the location reached by walking over some characters.
* `Location.behind`: the location behind the front part of a text, found by counting.
* `Location.describe`: the location in words.

## Main results

* `Location.advance_append`: walking over two texts in turn is walking over their concatenation.
* `Location.advance_start`: walking from the start of a text comes to what is counted.
* `Location.eq_of_advance_eq`: two points of a text have different locations.
-/

namespace TextTemplate

/-- A point of a text, by line and column, both counted from one. -/
structure Location where
  line : Nat
  column : Nat
  deriving DecidableEq, Repr

namespace Location

/-- The location of the first character of a text. -/
def start : Location := ⟨1, 1⟩

/-- The location after one character: a line feed begins the next line, every other character takes
one column. -/
def step (loc : Location) (c : Char) : Location :=
  if c = '\n' then ⟨loc.line + 1, 1⟩ else ⟨loc.line, loc.column + 1⟩

/-- The location after some characters that begin at the given one. -/
def advance (loc : Location) (cs : List Char) : Location :=
  cs.foldl step loc

/-- The location of the point of a text before which some characters stand: its line is counted by
the line feeds among them, and its column by the characters behind the last line feed. -/
def behind (before : List Char) : Location :=
  ⟨before.count '\n' + 1, (lastLine before).length + 1⟩

/-- The location in words, as messages name it. -/
def describe (loc : Location) : String :=
  s!"line {loc.line}, column {loc.column}"

@[simp] theorem advance_nil (loc : Location) : loc.advance [] = loc := rfl

@[simp] theorem advance_cons (loc : Location) (c : Char) (cs : List Char) :
    loc.advance (c :: cs) = (loc.step c).advance cs := rfl

theorem advance_append (loc : Location) (cs ds : List Char) :
    loc.advance (cs ++ ds) = (loc.advance cs).advance ds :=
  List.foldl_append

theorem step_behind (before : List Char) (c : Char) :
    (behind before).step c = behind (before ++ [c]) := by
  rw [step, behind, behind, List.count_append]
  split
  · next hc =>
    rw [hc, lastLine_concat_newline]
    rfl
  · next hc =>
    have hnewline : '\n' ∉ [c] := mt List.mem_singleton.1 (Ne.symm hc)
    rw [lastLine_append hnewline, List.length_append, List.count_eq_zero_of_not_mem hnewline]
    rfl

theorem advance_behind (before cs : List Char) :
    (behind before).advance cs = behind (before ++ cs) := by
  induction cs generalizing before with
  | nil => rw [advance_nil, List.append_nil]
  | cons c cs ih => rw [advance_cons, step_behind, ih, List.append_assoc, List.singleton_append]

/-- Walking from the start of a text comes to the location that is counted. -/
theorem advance_start (cs : List Char) : start.advance cs = behind cs :=
  advance_behind [] cs

/-- Walking moves on, to a later column or to a later line. -/
theorem lt_advance (loc : Location) {cs : List Char} (h : cs ≠ []) :
    loc.line < (loc.advance cs).line ∨
      loc.line = (loc.advance cs).line ∧ loc.column < (loc.advance cs).column := by
  induction cs generalizing loc with
  | nil => exact absurd rfl h
  | cons c cs ih =>
    have hstep : loc.line < (loc.step c).line ∨
        loc.line = (loc.step c).line ∧ loc.column < (loc.step c).column := by
      rw [step]
      split
      · exact Or.inl (Nat.lt_succ_self _)
      · exact Or.inr ⟨rfl, Nat.lt_succ_self _⟩
    rw [advance_cons]
    cases cs with
    | nil => exact hstep
    | cons d cs =>
      have hrest := ih (loc.step c) (List.cons_ne_nil d cs)
      omega

theorem advance_eq_self_iff (loc : Location) {cs : List Char} : loc.advance cs = loc ↔ cs = [] := by
  refine ⟨fun h => Decidable.of_not_not fun hcs => ?_, fun h => by rw [h, advance_nil]⟩
  have hlt := loc.lt_advance hcs
  rw [h] at hlt
  omega

/-- Two points of a text have different locations. -/
theorem eq_of_advance_eq {loc : Location} {cs ds cs' ds' : List Char} (h : cs ++ cs' = ds ++ ds')
    (hloc : loc.advance cs = loc.advance ds) : cs = ds := by
  rcases List.append_eq_append_iff.1 h with ⟨es, rfl, -⟩ | ⟨es, rfl, -⟩
  · rw [advance_append] at hloc
    rw [(advance_eq_self_iff _).1 hloc.symm, List.append_nil]
  · rw [advance_append] at hloc
    rw [(advance_eq_self_iff _).1 hloc, List.append_nil]

end Location

end TextTemplate
