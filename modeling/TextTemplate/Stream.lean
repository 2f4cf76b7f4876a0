import TextTemplate.Error
import TextTemplate.Lexeme
import TextTemplate.Text.Line
import TextTemplate.Text.Utf8

/-!
# Token streams

A token stream delivers the tokens of the text of one marker, one at a time. A token may be pushed
back, and tokens that were pushed back are delivered again before the text is read further, the last
one first. Behind the last token the end marker is delivered, as often as it is asked for. Where no
token stands, an error is reported and the stream stays as it is.

Offsets count bytes of the UTF-8 encoding of the text; locations are those in the whole template.

## Main definitions

* `Stream`, `Stream.ofContent`: a stream, and the one that starts at the front of a text.
* `Scan`: computations that read a stream and may fail. What they have read stays read if they fail.
* `Stream.next`, `Stream.push`: delivers a token, and takes one back.
* `Stream.Scans`: what reading a token from the text gives.
* `Stream.locationOf`: the location of an offset.
* `Stream.size`: a bound on the number of tokens to come.

## Main results

* `Stream.scans`: reading a token from the text goes on in one of four ways.
* `Stream.size_of_next`: delivering a token makes the stream smaller, unless it is the end marker.
-/

namespace TextTemplate

/-- A stream of the tokens of a text. -/
structure Stream where
  /-- The whole text. -/
  content : List Char
  /-- The location of the first character of the text. -/
  origin : Location
  /-- The part of the text that has not been read. -/
  rest : List Char
  /-- The number of bytes that have been read. -/
  offset : Nat
  /-- The line of the last token that has been read. -/
  line : String
  /-- Whether the end marker has been read. -/
  finished : Bool
  /-- The tokens that were pushed back, the last one first. -/
  pending : List Token
  deriving DecidableEq

/-- Computations that read a stream. If they fail, the stream stays where it is then. -/
abbrev Scan := EStateM Error Stream

namespace Stream

/-- The stream of a text whose first character has the given location. -/
def ofContent (content : String) (origin : Location) : Stream :=
  let cs := content.toList
  { content := cs
    origin
    rest := cs
    offset := 0
    line := String.ofList (firstLine cs)
    finished := false
    pending := [] }

/-- The location of the character at an offset. -/
def locationOf (s : Stream) (offset : Nat) : Location :=
  s.origin.advance (takeBytes offset s.content)

/-- The line of a token that follows a gap. Only a line feed in the gap moves on to another line. -/
def lineAfter (line : String) (gap rest : List Char) : String :=
  if '\n' ∈ gap then String.ofList (lastLine gap ++ firstLine rest) else line

/-- Why there is no token at a character. -/
def lexicalError (c : Char) : LexicalError :=
  if Lexeme.isQuote c then .unterminatedString else .unexpectedChar c

/-- The end marker, which stands behind the whole text. -/
def endMarker (s : Stream) : Token :=
  let stop := utf8Length s.content
  ⟨.endMarker, "", stop, stop, s.line⟩

/-- The blanks before the next token of the text. -/
def gap (s : Stream) : List Char :=
  s.rest.takeWhile Lexeme.isBlank

/-- What is left behind the blanks. -/
def ahead (s : Stream) : List Char :=
  s.rest.dropWhile Lexeme.isBlank

/-- Reads a token from the text. Once the end marker has been read, nothing else is. -/
def scan : Scan Token := fun s =>
  if s.finished then
    .ok s.endMarker s
  else
    let start := s.offset + utf8Length s.gap
    let line := lineAfter s.line s.gap s.ahead
    match s.ahead with
    | [] =>
      let s' := { s with rest := [], offset := start, line, finished := true }
      .ok s'.endMarker s'
    | c :: _ =>
      match Lexeme.front? s.ahead with
      | some l =>
        let stop := start + utf8Length l.text
        .ok ⟨l.kind, String.ofList l.text, start, stop, line⟩
          { s with rest := l.rest, offset := stop, line }
      | none => .error (.lexical (lexicalError c) (s.locationOf start)) s

/-- Delivers the next token: the one that was pushed back last, and else one from the text. -/
def next : Scan Token := fun s =>
  match s.pending with
  | t :: pending => .ok t { s with pending }
  | [] => s.scan

/-- The stream after a token was pushed back. -/
def unread (s : Stream) (t : Token) : Stream :=
  { s with pending := t :: s.pending }

/-- Pushes a token back. -/
def push (t : Token) : Scan Unit := fun s =>
  .ok () (s.unread t)

/-- Fails for a reason that concerns a token. -/
def fail {α : Type} (cause : GrammarError) (t : Token) : Scan α := fun s =>
  .error (.grammar cause (s.locationOf t.start)) s

/-- Fails because of a token that stands where something else was expected. -/
def unexpected {α : Type} (expected : Expectation) (t : Token) : Scan α :=
  fail (.unexpected expected t.describe) t

/-- Demands that nothing is left. -/
def expectEnd : Scan Unit := do
  let t ← next
  if t.isEnd then return () else unexpected .endOfExpression t

/-! ### Reading from the text -/

theorem gap_append_ahead (s : Stream) : s.gap ++ s.ahead = s.rest :=
  List.takeWhile_append_dropWhile

theorem isBlank_of_mem_gap (s : Stream) : ∀ c ∈ s.gap, Lexeme.isBlank c = true :=
  List.all_eq_true.1 List.all_takeWhile

theorem isBlank_head_ahead (s : Stream) : ∀ c ∈ s.ahead.head?, Lexeme.isBlank c = false := by
  intro c hc
  rw [ahead] at hc
  simpa [Option.mem_def.1 hc] using List.head?_dropWhile_not Lexeme.isBlank s.rest

/-- What reading a token from the text gives. -/
inductive Scans (s : Stream) : EStateM.Result Error Stream Token → Prop where
  /-- The end marker has been read before, and it stands there for ever. -/
  | again (hfinished : s.finished = true) : Scans s (.ok s.endMarker s)
  /-- Nothing is left behind the blanks. -/
  | finish {s' : Stream} (hfinished : s.finished = false) (hahead : s.ahead = [])
      (hs' : s' = { s with
        rest := [], offset := s.offset + utf8Length s.gap, line := lineAfter s.line s.gap []
        finished := true }) :
      Scans s (.ok s'.endMarker s')
  /-- A lexeme stands behind the blanks. -/
  | token {l : Lexeme} {start : Nat} {line : String} (hfinished : s.finished = false)
      (hfront : Lexeme.front? s.ahead = some l) (hstart : start = s.offset + utf8Length s.gap)
      (hline : line = lineAfter s.line s.gap s.ahead) :
      Scans s (.ok ⟨l.kind, String.ofList l.text, start, start + utf8Length l.text, line⟩
        { s with rest := l.rest, offset := start + utf8Length l.text, line })
  /-- No lexeme stands there. -/
  | fault {c : Char} {cs : List Char} (hahead : s.ahead = c :: cs)
      (hfront : Lexeme.front? s.ahead = none) :
      Scans s (.error (.lexical (lexicalError c) (s.locationOf (s.offset + utf8Length s.gap))) s)

/-- Reading a token from the text goes on in one of the four ways. -/
theorem scans (s : Stream) : s.Scans s.scan := by
  simp only [scan]
  split
  · next hfinished => exact .again hfinished
  · next hfinished =>
    have hfinished : s.finished = false := by simpa using hfinished
    split
    · next hahead => exact .finish hfinished hahead (by rw [hahead])
    · next hahead =>
      split
      · next hfront => exact .token hfinished hfront rfl rfl
      · next hfront => exact .fault hahead hfront

/-- A call fails only if the text is read. -/
theorem scan_of_next_eq_error {s s' : Stream} {err : Error} (h : s.next = .error err s') :
    s.pending = [] ∧ s.scan = .error err s' := by
  unfold next at h
  split at h
  · cases h
  · next hpending => exact ⟨hpending, h⟩

/-! ### Progress -/

/-- A bound on the number of tokens to come before the end marker. -/
def size (s : Stream) : Nat :=
  s.rest.length + (s.pending.filter (!·.isEnd)).length

@[simp] theorem size_unread (s : Stream) (t : Token) :
    (s.unread t).size = s.size + if t.isEnd then 0 else 1 := by
  by_cases h : t.isEnd <;> simp [size, unread, h, Nat.add_assoc]

theorem size_of_scan {s s' : Stream} {t : Token} (h : s.scan = .ok t s') :
    (s'.size + if t.isEnd then 0 else 1) ≤ s.size := by
  have hscans := s.scans
  rw [h] at hscans
  cases hscans with
  | again => simp [size, Token.isEnd, endMarker]
  | finish _ _ hs' => simp [size, Token.isEnd, endMarker, hs']
  | token _ hfront _ _ =>
    have hahead : s.ahead.length ≤ s.rest.length := (List.dropWhile_sublist _).length_le
    have hlt := (Lexeme.cut_of_front? hfront).length_rest_lt
    simp only [size]
    split <;> omega

/-- Delivering a token makes the stream smaller, unless it is the end marker. -/
theorem size_of_next {s s' : Stream} {t : Token} (h : s.next = .ok t s') :
    (s'.size + if t.isEnd then 0 else 1) ≤ s.size := by
  unfold next at h
  split at h
  · next hpending =>
    cases h
    by_cases ht : t.isEnd <;> simp [size, hpending, ht, Nat.add_assoc]
  · exact size_of_scan h

theorem size_le_of_next {s s' : Stream} {t : Token} (h : s.next = .ok t s') : s'.size ≤ s.size :=
  Nat.le_trans (Nat.le_add_right _ _) (size_of_next h)

theorem size_lt_of_next {s s' : Stream} {t : Token} (h : s.next = .ok t s')
    (ht : t.kind ≠ .endMarker) : s'.size < s.size := by
  have hsize := size_of_next h
  simp only [Token.isEnd, ht, decide_false, Bool.false_eq_true, if_false] at hsize
  omega

/-- Pushing back the token that was just delivered makes the stream no greater than before. -/
theorem size_unread_of_next {s s' : Stream} {t : Token} (h : s.next = .ok t s') :
    (s'.unread t).size ≤ s.size := by
  rw [size_unread]
  exact size_of_next h

end Stream

end TextTemplate
