import TextTemplate.Location

/-!
# Spans of a template

The text of a template is cut into *spans*: stretches of literal text, and markers. A marker is an
opening delimiter, a body and a closing delimiter:

* `{{ … }}` holds an expression,
* `{% … %}` is a block, the head or the end of a tag,
* `{# … #}` is a comment.

A marker ends at the first closing delimiter of its own kind after the opening one, whatever the
body holds, and an opening delimiter that is never closed is literal text. Cutting therefore never
fails.

## Main definitions

* `Marker`: the three kinds of marker, with their delimiters.
* `Marker.front?`: the marker at the front of a text, if a complete one stands there.
* `Span`: one stretch of a template and where it stands.
* `Span.cut`: the spans of a template, in order.
-/

namespace TextTemplate

/-- The kinds of marker. -/
inductive Marker where
  /-- The marker `{{ … }}`. -/
  | expression
  /-- The marker `{% … %}`. -/
  | block
  /-- The marker `{# … #}`. -/
  | comment
  deriving DecidableEq, Repr

namespace Marker

/-- The second character of the opening delimiter. The first is an opening brace. -/
def openingSign : Marker → Char
  | expression => '{'
  | block => '%'
  | comment => '#'

/-- The first character of the closing delimiter. The second is a closing brace. -/
def closingSign : Marker → Char
  | expression => '}'
  | block => '%'
  | comment => '#'

/-- The opening delimiter. -/
def opener (m : Marker) : List Char := ['{', m.openingSign]

/-- The closing delimiter. -/
def closer (m : Marker) : List Char := [m.closingSign, '}']

/-- The marker whose opening delimiter has this second character. -/
def ofSign? : Char → Option Marker
  | '{' => some expression
  | '%' => some block
  | '#' => some comment
  | _ => none

/-- Cuts a text at the first closing delimiter: the body before it, and what follows it. -/
def splitAtCloser (m : Marker) : List Char → Option (List Char × List Char)
  | a :: b :: cs =>
    if a = m.closingSign ∧ b = '}' then some ([], cs)
    else (m.splitAtCloser (b :: cs)).map fun (body, after) => (a :: body, after)
  | _ => none

/-- The complete marker at the front of a text: its kind, its body, and what follows it. -/
def front? : List Char → Option (Marker × List Char × List Char)
  | '{' :: sign :: cs =>
    (ofSign? sign).bind fun m => (m.splitAtCloser cs).map fun (body, after) => (m, body, after)
  | _ => none

theorem ofSign?_eq_some_iff {c : Char} {m : Marker} : ofSign? c = some m ↔ c = m.openingSign := by
  constructor
  · intro h
    unfold ofSign? at h
    split at h <;> simp at h <;> subst h <;> rfl
  · rintro rfl
    cases m <;> rfl

/-- Cutting at the closing delimiter loses nothing. -/
theorem eq_of_splitAtCloser {m : Marker} {cs body after : List Char}
    (h : m.splitAtCloser cs = some (body, after)) : cs = body ++ (m.closer ++ after) := by
  induction cs generalizing body with
  | nil => simp [splitAtCloser] at h
  | cons a cs ih =>
    cases cs with
    | nil => simp [splitAtCloser] at h
    | cons b cs =>
      rw [splitAtCloser] at h
      split at h
      · next hab => simp_all [closer]
      · obtain ⟨⟨body', after'⟩, hcut, heq⟩ := Option.map_eq_some_iff.1 h
        obtain ⟨rfl, rfl⟩ := Prod.mk.inj heq
        rw [ih hcut, List.cons_append]

/-- The text of a marker at the front of a text is its opening delimiter, its body and its closing
delimiter. -/
theorem eq_of_front? {m : Marker} {cs body after : List Char}
    (h : front? cs = some (m, body, after)) : cs = m.opener ++ (body ++ (m.closer ++ after)) := by
  unfold front? at h
  split at h
  · next sign cs =>
    obtain ⟨m', hsign, h⟩ := Option.bind_eq_some_iff.1 h
    obtain ⟨⟨body', after'⟩, hcut, heq⟩ := Option.map_eq_some_iff.1 h
    simp only [Prod.mk.injEq] at heq
    obtain ⟨rfl, rfl, rfl⟩ := heq
    rw [ofSign?_eq_some_iff.1 hsign, eq_of_splitAtCloser hcut]
    rfl
  · simp at h

theorem length_lt_of_front? {m : Marker} {cs body after : List Char}
    (h : front? cs = some (m, body, after)) : after.length < cs.length := by
  rw [eq_of_front? h]
  simp [opener, closer]
  omega

end Marker

/-- Splits off the longest stretch at the front of a text in which no complete marker starts. -/
def splitAtMarker : List Char → List Char × List Char
  | [] => ([], [])
  | c :: cs =>
    if (Marker.front? (c :: cs)).isSome then ([], c :: cs)
    else
      let (run, after) := splitAtMarker cs
      (c :: run, after)

theorem splitAtMarker_append (cs : List Char) :
    (splitAtMarker cs).1 ++ (splitAtMarker cs).2 = cs := by
  induction cs with
  | nil => rfl
  | cons c cs ih =>
    rw [splitAtMarker]
    split
    · rfl
    · exact congrArg (c :: ·) ih

theorem length_splitAtMarker_le (cs : List Char) : (splitAtMarker cs).2.length ≤ cs.length := by
  conv => rhs; rw [← splitAtMarker_append cs, List.length_append]
  omega

/-- What a span holds. -/
inductive Span.Kind where
  | text
  | marker (m : Marker)
  deriving DecidableEq, Repr

/-- One stretch of a template. The content of a marker is its body, without the delimiters, and the
location is that of the first character of the stretch, for a marker its opening delimiter. -/
structure Span where
  kind : Span.Kind
  content : String
  location : Location
  deriving DecidableEq, Repr

namespace Span

/-- The location of the first character of the content, which follows the two characters of an
opening delimiter. -/
def contentLocation (s : Span) : Location :=
  match s.kind with
  | .text => s.location
  | .marker _ => ⟨s.location.line, s.location.column + 2⟩

/-- The spans of a text whose first character has the given location. Each location is reached from
the one before by walking over the span between them; in a whole template this comes to counting the
line feeds and the characters in front of the span (`Location.advance_start`). -/
def cutFrom (loc : Location) : List Char → List Span
  | [] => []
  | c :: cs =>
    match _h : Marker.front? (c :: cs) with
    | some (m, body, after) =>
      ⟨.marker m, String.ofList body, loc⟩ ::
        cutFrom (loc.advance (m.opener ++ body ++ m.closer)) after
    | none =>
      let piece := splitAtMarker cs
      ⟨.text, String.ofList (c :: piece.1), loc⟩ :: cutFrom (loc.advance (c :: piece.1)) piece.2
termination_by cs => cs.length
decreasing_by
  · exact Marker.length_lt_of_front? _h
  · exact Nat.lt_succ_of_le (length_splitAtMarker_le cs)

/-- The spans of a template, in order. -/
def cut (source : String) : List Span :=
  cutFrom .start source.toList

end Span

end TextTemplate
