import TextTemplate.Decimal.Numeral
import TextTemplate.Expr
import TextTemplate.Stream

/-!
# Reading expressions

Expressions are read from a token stream by the grammar

```text
expr    := atom trailer*
atom    := STRING | NUMBER | NAME
trailer := '.' NAME | '[' expr ']'
```

An expression is as long as possible: it ends before the first token that cannot continue it. That
token is pushed back, unless it is the end marker. Brackets nest no deeper than a limit.

Open brackets are kept on a stack, so that reading is one loop over the tokens. An entry of the
stack is the expression before its bracket, and the loop holds the expression that has been read
behind the innermost one.

## Main definitions

* `Expr.atom`: the expression of a single token.
* `Expr.continueFrom`: the loop that reads trailers with some brackets open.
* `Expr.parseTrailers`: reads the trailers of an expression.
* `Expr.parse`: reads an expression.

## Main results

* `Expr.size_of_parseTrailers`, `Expr.size_of_parse`: reading makes the stream no greater, and
  reading a whole expression makes it smaller.
-/

namespace TextTemplate.Expr

/-- The greatest integer that a literal may denote. -/
def greatestInteger : Nat := 1 <<< 63 - 1

/-- The number that a literal denotes: with a point it is the nearest floating-point number, and
without one an integer, which must not be too large. -/
def number? (literal : List Char) : Option Value :=
  if '.' ∈ literal then (Numeral.ofChars? literal).map fun x => .float x.toDouble
  else
    let n := natOfDigits literal
    if n ≤ greatestInteger then some (.int (Int64.ofNat n)) else none

/-- The text between the quotes of a string. Escape sequences stay as they are. -/
def unquoted (literal : List Char) : List Char :=
  literal.tail.dropLast

/-- The expression that a single token stands for. -/
def atom (t : Token) : Except GrammarError Expr :=
  match t.kind with
  | .string => .ok (.literal (.string (String.ofList (unquoted t.text.toList))))
  | .number =>
    match number? t.text.toList with
    | some v => .ok (.literal v)
    | none => .error (.invalidNumber t.text)
  | .name => .ok (.lookup t.text)
  | .operator _ | .endMarker => .error (.unexpected .literalOrName t.describe)

/-- Reads on with some brackets open. The stack holds the expressions before them, the innermost one
first, and `e` has been read behind the innermost bracket. The whole lies in `depth` brackets more.
-/
def continueFrom (limit depth : Nat) (stack : List Expr) (e : Expr) (s : Stream) :
    EStateM.Result Error Stream Expr :=
  match _h : s.next with
  | .error err s => .error err s
  | .ok t s₁ =>
    match _ht : t.kind, stack with
    | .operator .dot, stack =>
      match _h₁ : s₁.next with
      | .error err s => .error err s
      | .ok name s₂ =>
        if name.kind = .name then continueFrom limit depth stack (.member e name.text) s₂
        else Stream.unexpected .nameAfterDot name s₂
    | .operator .leftBracket, stack =>
      if limit ≤ depth + stack.length then Stream.fail (.nestingTooDeep limit) t s₁
      else match _h₁ : s₁.next with
        | .error err s => .error err s
        | .ok first s₂ =>
          if first.isEnd then Stream.fail .unclosedBracket t s₂
          else match atom first with
            | .error cause => Stream.fail cause first s₂
            | .ok key => continueFrom limit depth (e :: stack) key s₂
    | .operator .rightBracket, base :: stack => continueFrom limit depth stack (.item base e) s₁
    | _, _ :: _ => Stream.unexpected .closingBracket t s₁
    | _, [] => .ok e (if t.isEnd then s₁ else s₁.unread t)
termination_by s.size
decreasing_by
  · exact Nat.lt_of_le_of_lt (Stream.size_le_of_next _h₁)
      (Stream.size_lt_of_next _h (by simp [_ht]))
  · exact Nat.lt_of_le_of_lt (Stream.size_le_of_next _h₁)
      (Stream.size_lt_of_next _h (by simp [_ht]))
  · exact Stream.size_lt_of_next _h (by simp [_ht])

/-- Reads the trailers of an expression that lies within some open brackets. -/
def parseTrailers (limit depth : Nat) (base : Expr) : Scan Expr :=
  continueFrom limit depth [] base

/-- Reads an expression. -/
def parse (limit : Nat) : Scan Expr := do
  let t ← Stream.next
  match atom t with
  | .error cause => Stream.fail cause t
  | .ok e => parseTrailers limit 0 e

/-! ### Progress -/

theorem kind_ne_endMarker_of_atom {t : Token} {e : Expr} (h : atom t = .ok e) :
    t.kind ≠ .endMarker := by
  intro ht
  simp [atom, ht] at h

theorem size_of_continueFrom {limit depth : Nat} {stack : List Expr} {e e' : Expr} {s s' : Stream}
    (h : continueFrom limit depth stack e s = .ok e' s') : s'.size ≤ s.size := by
  fun_induction continueFrom limit depth stack e s with
  | case1 => cases h
  | case2 => cases h
  | case3 e s t s₁ _h stack _ht name s₂ _h₁ _ ih =>
    exact Nat.le_trans (ih h)
      (Nat.le_trans (Stream.size_le_of_next _h₁) (Stream.size_le_of_next _h))
  | case4 => cases h
  | case5 => cases h
  | case6 => cases h
  | case7 => cases h
  | case8 => cases h
  | case9 e s t s₁ _h stack _ht _ first s₂ _h₁ _ key _ ih =>
    exact Nat.le_trans (ih h)
      (Nat.le_trans (Stream.size_le_of_next _h₁) (Stream.size_le_of_next _h))
  | case10 e s t s₁ _h base stack _ht ih => exact Nat.le_trans (ih h) (Stream.size_le_of_next _h)
  | case11 => cases h
  | case12 e s t s₁ _h =>
    cases h
    split
    · exact Stream.size_le_of_next _h
    · exact Stream.size_unread_of_next _h

theorem size_of_parseTrailers {limit depth : Nat} {base e : Expr} {s s' : Stream}
    (h : parseTrailers limit depth base s = .ok e s') : s'.size ≤ s.size :=
  size_of_continueFrom h

theorem size_of_parse {limit : Nat} {e : Expr} {s s' : Stream}
    (h : parse limit s = .ok e s') : s'.size < s.size := by
  simp only [parse, bind, EStateM.bind] at h
  cases hnext : s.next with
  | error err s₁ => simp [hnext] at h
  | ok t s₁ =>
    simp only [hnext] at h
    cases hatom : atom t with
    | error cause => simp [hatom, Stream.fail] at h
    | ok e₀ =>
      simp only [hatom] at h
      exact Nat.lt_of_le_of_lt (size_of_parseTrailers h)
        (Stream.size_lt_of_next hnext (kind_ne_endMarker_of_atom hatom))

end TextTemplate.Expr
