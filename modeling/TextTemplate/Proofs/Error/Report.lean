import TextTemplate.Proofs.Lexeme.Form
import TextTemplate.Proofs.Plan.Matching
import TextTemplate.Proofs.Span.Decomposition

/-!
# Where errors are reported

An error of the compiler carries a location, which is put together from the location of a marker,
the width of its opening delimiter and the offset of a token in its content. That it points at the
right place is stated on the text of the template: the location is reached by walking over some
front part of the text, and the text behind that part begins with what the error reports.

Readers are shown to report well one by one. A stream of the content of a marker knows what it has
read, and the tokens that were pushed back stand where their offsets say. Every reader keeps this
up, and where it fails the place of the token at hand is the place that is reported.

## Main definitions

* `Place`: a marker of a template. `Place.Point`: a point in its content.
* `Place.Bears`: a token stands in the content of a marker.
* `Compiler.Reports`: the text behind a point begins with what an error reports.
* `Compiler.Faults`: an error is reported at a point of which this is true.
* `Stream.Reads`: a stream of the content of a marker.
* `Compiler.Sound`, `Compiler.KeepsTo`: results and readers that keep to a marker.

## Main results

* `Compiler.keepsTo_next`: what is delivered stands in the marker.
* `Compiler.KeepsTo.bind`: composite readers keep to a marker.
-/

namespace TextTemplate

/-! ### Markers in their template -/

/-- A marker of a template, with the spans before it and those behind it. -/
structure Place (source : String) where
  before : List Span
  marker : Marker
  content : String
  location : Location
  after : List Span
  cut_eq : Span.cut source = before ++ ⟨.marker marker, content, location⟩ :: after

namespace Place

variable {source : String} (p : Place source) {t : Token} {read rest before here : List Char}

/-- The span of the marker. -/
def span : Span := ⟨.marker p.marker, p.content, p.location⟩

/-- The text before the marker. -/
def front : List Char := p.before.flatMap Span.written

/-- The text behind the marker. -/
def back : List Char := p.after.flatMap Span.written

theorem source_eq : source.toList =
    p.front ++ (p.marker.opener ++ (p.content.toList ++ (p.marker.closer ++ p.back))) := by
  have hcut := (Span.decomposes_cutFrom .start source.toList).flatMap_written
  have hsplit : Span.cutFrom .start source.toList = p.before ++ p.span :: p.after := p.cut_eq
  rw [← hcut, hsplit, List.flatMap_append, List.flatMap_cons, span, Span.written_marker]
  simp only [front, back, List.append_assoc]

theorem location_eq : p.location = Location.start.advance p.front :=
  (Span.decomposes_cutFrom .start source.toList).location_eq p.before p.span p.after p.cut_eq

theorem contentLocation_eq :
    p.span.contentLocation = Location.start.advance (p.front ++ p.marker.opener) :=
  (Span.decomposes_cutFrom .start source.toList).contentLocation_eq p.before p.span p.after p.cut_eq

/-- A point in the content of the marker, by the parts of the content and of the template before and
behind it. -/
structure Point (read rest before here : List Char) : Prop where
  content_eq : p.content.toList = read ++ rest
  before_eq : before = p.front ++ (p.marker.opener ++ read)
  here_eq : here = rest ++ (p.marker.closer ++ p.back)

/-- A token stands in the content, between two parts of it. -/
structure Bears (t : Token) (read rest : List Char) : Prop where
  content_eq : p.content.toList = read ++ rest
  start_eq : t.start = utf8Length read
  rest_eq_nil : t.isEnd = true → rest = []
  front?_eq : t.isEnd = false → ∃ tail, Lexeme.front? rest = some ⟨t.kind, t.text.toList, tail⟩

/-- A name is the first token of a block. -/
structure Names (name : String) (read rest : List Char) : Prop where
  marker_eq : p.marker = .block
  isBlank : ∀ c ∈ read, Lexeme.isBlank c = true
  front?_eq : ∃ tail, Lexeme.front? rest = some ⟨.name, name.toList, tail⟩

variable {p}

theorem Point.source_eq (h : p.Point read rest before here) : source.toList = before ++ here := by
  rw [p.source_eq, h.content_eq, h.before_eq, h.here_eq]
  simp only [List.append_assoc]

theorem exists_point (h : p.content.toList = read ++ rest) :
    ∃ before here, p.Point read rest before here :=
  ⟨_, _, h, rfl, rfl⟩

/-- What stands at a point of the content stands there in the template. -/
theorem Point.prefix_here (h : p.Point read rest before here) {cs : List Char} (hcs : cs <+: rest) :
    cs <+: here := by
  rw [h.here_eq]
  exact hcs.trans (List.prefix_append _ _)

theorem Bears.text_ne_empty (h : p.Bears t read rest) (ht : t.isEnd = false) : t.text ≠ "" := by
  obtain ⟨tail, hfront⟩ := h.front?_eq ht
  have hne := (Lexeme.cut_of_front? hfront).text_ne_nil
  rintro hempty
  exact hne (by simp [hempty])

theorem Bears.text_prefix (h : p.Bears t read rest) (ht : t.isEnd = false) :
    t.text.toList <+: rest := by
  obtain ⟨tail, hfront⟩ := h.front?_eq ht
  exact ⟨tail, (Lexeme.cut_of_front? hfront).text_append_rest⟩

end Place

/-! ### What errors report -/

namespace Compiler

variable {source : String} (c : Compiler) (p : Place source)

/-- The marker opens a tag whose end is missing: the spans behind it match the body of the tag, up
to the end of the template. -/
def LeavesOpen (name : String) : Prop :=
  ∃ header handler outer nodes, p.marker = .block ∧ c.HoldsHeader p.span header ∧
    header.name = name ∧ c.registry.get? name = some handler ∧ handler.hasBody = true ∧
    c.Matches (name :: outer) p.after nodes

/-- The template begins, behind a point, with what an error reports. The point lies in the content
of a marker; only a tag without its end is reported at the opening delimiter. -/
inductive Reports (before here : List Char) : Error → Prop where
  | token {read rest : List Char} {expected : Expectation} {t : Token} {loc : Location}
      (hpoint : p.Point read rest before here) (ht : t.isEnd = false) (hne : t.text ≠ "")
      (hhere : t.text.toList <+: here) :
      Reports before here (.grammar (.unexpected expected t.describe) loc)
  /-- At the end of a marker its closing delimiter is found. -/
  | markerEnd {expected : Expectation} {loc : Location}
      (hpoint : p.Point p.content.toList [] before here) (hhere : p.marker.closer <+: here) :
      Reports before here (.grammar (.unexpected expected Token.Kind.endMarker.label) loc)
  | invalidNumber {read rest : List Char} {literal : String} {loc : Location}
      (hpoint : p.Point read rest before here) (hne : literal ≠ "")
      (hhere : literal.toList <+: here) :
      Reports before here (.grammar (.invalidNumber literal) loc)
  | unclosedBracket {read rest : List Char} {loc : Location}
      (hpoint : p.Point read rest before here) (hhere : ['['] <+: here) :
      Reports before here (.grammar .unclosedBracket loc)
  | bracketTooDeep {read rest : List Char} {loc : Location}
      (hpoint : p.Point read rest before here) (hhere : ['['] <+: here) :
      Reports before here (.grammar (.nestingTooDeep c.maxDepth) loc)
  /-- The tag that is refused is the one of the block. -/
  | tagTooDeep {read rest : List Char} {name : String} {handler : Handler} {loc : Location}
      (hpoint : p.Point read rest before here) (hname : p.Names name read rest)
      (hhandler : c.registry.get? name = some handler) (hbody : handler.hasBody = true)
      (hhere : name.toList <+: here) :
      Reports before here (.grammar (.nestingTooDeep c.maxDepth) loc)
  | unknownTag {read rest : List Char} {name : String} {loc : Location}
      (hpoint : p.Point read rest before here) (hname : p.Names name read rest)
      (hhere : name.toList <+: here) : Reports before here (.grammar (.unknownTag name) loc)
  | unexpectedEndTag {read rest : List Char} {name : String} {loc : Location}
      (hpoint : p.Point read rest before here) (hname : p.Names name read rest)
      (hhere : name.toList <+: here) : Reports before here (.grammar (.unexpectedEndTag name) loc)
  | unclosedTag {name : String} {loc : Location} (hbefore : before = p.front)
      (hopen : c.LeavesOpen p name) (hhere : Marker.block.opener <+: here) :
      Reports before here (.grammar (.unclosedTag name (endName name)) loc)
  | unexpectedChar {read rest : List Char} {found : Char} {loc : Location}
      (hpoint : p.Point read rest before here) (hhere : [found] <+: here) :
      Reports before here (.lexical (.unexpectedChar found) loc)
  | unterminatedString {read rest : List Char} {quote : Char} {loc : Location}
      (hpoint : p.Point read rest before here) (hquote : Lexeme.isQuote quote = true)
      (hhere : [quote] <+: here) : Reports before here (.lexical .unterminatedString loc)

/-- An error is reported at a point of which it is true. -/
def Faults (err : Error) : Prop :=
  ∃ before here, source.toList = before ++ here ∧
    err.location? = some (Location.start.advance before) ∧ c.Reports p before here err

end Compiler

/-! ### Streams of the content of a marker -/

namespace Stream

variable {source : String} {p : Place source} {s s' : Stream} {t : Token}

/-- A stream of the content of a marker. -/
structure Reads (s : Stream) (p : Place source) : Prop where
  content_eq : s.content = p.content.toList
  origin_eq : s.origin = p.span.contentLocation
  exists_read : ∃ read, p.content.toList = read ++ s.rest ∧ s.offset = utf8Length read
  rest_eq_nil : s.finished = true → s.rest = []
  pending_bears : ∀ t ∈ s.pending, ∃ read rest, p.Bears t read rest

theorem reads_stream (p : Place source) : p.span.stream.Reads p :=
  ⟨rfl, rfl, ⟨[], rfl, rfl⟩, (fun h => by cases h), by simp [Span.stream, ofContent]⟩

theorem Reads.unread (h : s.Reads p) {read rest : List Char} (ht : p.Bears t read rest) :
    (s.unread t).Reads p :=
  ⟨h.content_eq, h.origin_eq, h.exists_read, h.rest_eq_nil,
    List.forall_mem_cons.2 ⟨⟨read, rest, ht⟩, h.pending_bears⟩⟩

/-- The location of an offset is reached by walking over the template up to it. -/
theorem Reads.locationOf_eq (h : s.Reads p) {read rest before here : List Char}
    (hpoint : p.Point read rest before here) :
    s.locationOf (utf8Length read) = Location.start.advance before := by
  rw [locationOf, h.content_eq, h.origin_eq, hpoint.content_eq, takeBytes_utf8Length,
    p.contentLocation_eq, hpoint.before_eq, ← Location.advance_append, List.append_assoc]

/-- The blanks before a token have been read when the token is looked for. -/
theorem Reads.exists_gap (h : s.Reads p) : ∃ read, p.content.toList = read ++ s.rest ∧
    p.content.toList = (read ++ s.gap) ++ s.ahead ∧
    s.offset + utf8Length s.gap = utf8Length (read ++ s.gap) := by
  obtain ⟨read, hread, hoffset⟩ := h.exists_read
  refine ⟨read, hread, ?_, ?_⟩
  · rw [List.append_assoc, s.gap_append_ahead, hread]
  · rw [hoffset, utf8Length_append]

/-- A token that is read from the text stands behind what has been read and some blanks. -/
theorem Reads.scan (hs : s.Reads p) (h : s.scan = .ok t s') : s'.Reads p ∧
    ∃ read, p.content.toList = read ++ s.rest ∧
      p.Bears t (read ++ s.gap) s.ahead := by
  obtain ⟨read, hread, hsplit, hstart⟩ := hs.exists_gap
  have hscans := s.scans
  rw [h] at hscans
  cases hscans with
  | again hfinished =>
    have hahead : s.ahead = [] := by rw [Stream.ahead, hs.rest_eq_nil hfinished, List.dropWhile_nil]
    refine ⟨hs, read, hread, hsplit, ?_, fun _ => hahead, fun hend => by cases hend⟩
    rw [hahead, List.append_nil] at hsplit
    rw [Stream.endMarker, hs.content_eq, hsplit]
  | finish _ hahead hs' =>
    subst hs'
    rw [hahead] at hsplit ⊢
    refine ⟨⟨hs.content_eq, hs.origin_eq, ⟨_, hsplit, hstart⟩, fun _ => rfl, hs.pending_bears⟩,
      read, hread, hsplit, ?_, fun _ => rfl, fun hend => by cases hend⟩
    rw [List.append_nil] at hsplit
    rw [Stream.endMarker, hs.content_eq, hsplit]
  | @token l start line hunfinished hfront hstart' _ =>
    subst hstart'
    have hcut := Lexeme.cut_of_front? hfront
    have hbehind : p.content.toList = (read ++ s.gap ++ l.text) ++ l.rest := by
      rw [hsplit, ← hcut.text_append_rest, List.append_assoc _ l.text]
    refine ⟨⟨hs.content_eq, hs.origin_eq, ⟨_, hbehind, ?_⟩, fun hend => ?_, hs.pending_bears⟩,
      read, hread, hsplit, hstart, fun hend => ?_, fun _ => ⟨l.rest, ?_⟩⟩
    · rw [hstart, utf8Length_append (read ++ _)]
    · rw [hunfinished] at hend
      cases hend
    · exact absurd (Token.isEnd_iff.1 hend) (Lexeme.kind_ne_endMarker_of_front? hfront)
    · rw [hfront, String.toList_ofList]

/-- The tokens that a stream delivers stand in the marker. -/
theorem Reads.next (hs : s.Reads p) (h : s.next = .ok t s') :
    s'.Reads p ∧ ∃ read rest, p.Bears t read rest := by
  unfold Stream.next at h
  split at h
  · next t pending hpending =>
    cases h
    have hbears := hs.pending_bears
    rw [hpending] at hbears
    obtain ⟨ht, hrest⟩ := List.forall_mem_cons.1 hbears
    exact ⟨⟨hs.content_eq, hs.origin_eq, hs.exists_read, hs.rest_eq_nil, hrest⟩, ht⟩
  · obtain ⟨hs', read, -, hbears⟩ := hs.scan h
    exact ⟨hs', _, _, hbears⟩

end Stream

namespace Compiler

variable {source : String} {c : Compiler} {p : Place source} {s s' : Stream} {t : Token}

/-- An error that is put at a point of which it is true. -/
theorem faults_of_point {read rest before here : List Char} {err : Error}
    (hpoint : p.Point read rest before here)
    (hloc : err.location? = some (Location.start.advance before))
    (hreports : c.Reports p before here err) : c.Faults p err :=
  ⟨before, here, hpoint.source_eq, hloc, hreports⟩

/-- Where no token stands, the character that is found there is reported. -/
theorem faults_of_scan (hs : s.Reads p) {err : Error} (h : s.scan = .error err s') :
    c.Faults p err := by
  obtain ⟨read, -, hsplit, hstart⟩ := hs.exists_gap
  obtain ⟨before, here, hpoint⟩ := Place.exists_point hsplit
  have hloc := hs.locationOf_eq hpoint
  rw [← hstart] at hloc
  have hscans := s.scans
  rw [h] at hscans
  cases hscans with
  | @fault ch cs hahead _ =>
    have hhere : [ch] <+: here := hpoint.prefix_here (by rw [hahead]; exact ⟨cs, rfl⟩)
    refine faults_of_point hpoint (by rw [Error.location?, hloc]) ?_
    unfold Stream.lexicalError
    split
    · next hquote => exact .unterminatedString hpoint hquote hhere
    · exact .unexpectedChar hpoint hhere

theorem faults_of_next (hs : s.Reads p) {err : Error} (h : s.next = .error err s') :
    c.Faults p err := by
  exact faults_of_scan hs (Stream.scan_of_next_eq_error h).2

/-! ### Results and readers that keep to a marker -/

section

variable {α β : Type} {Post : α → Prop} {Then : β → Prop}

/-- A result keeps to a marker: a value comes with a stream of its content, and an error is reported
at a point of which it is true. -/
def Sound (c : Compiler) (p : Place source) (Post : α → Prop) :
    EStateM.Result Error Stream α → Prop
  | .ok a s => s.Reads p ∧ Post a
  | .error err _ => c.Faults p err

/-- A reader keeps to a marker on all streams of its content. -/
def KeepsTo (c : Compiler) (p : Place source) (reader : Scan α) (Post : α → Prop) : Prop :=
  ∀ s : Stream, s.Reads p → c.Sound p Post (reader s)

theorem KeepsTo.ok {x : Scan α} {a : α} (hx : c.KeepsTo p x Post) (hs : s.Reads p)
    (h : x s = .ok a s') : s'.Reads p ∧ Post a := by
  have hresult := hx s hs
  rwa [h] at hresult

theorem KeepsTo.error {x : Scan α} {err : Error} (hx : c.KeepsTo p x Post) (hs : s.Reads p)
    (h : x s = .error err s') : c.Faults p err := by
  have hresult := hx s hs
  rwa [h] at hresult

theorem keepsTo_pure {a : α} (h : Post a) : c.KeepsTo p (pure a : Scan α) Post :=
  fun _ hs => ⟨hs, h⟩

/-- A composite reader keeps to a marker if its parts do. -/
theorem KeepsTo.bind {x : Scan α} {f : α → Scan β} (hx : c.KeepsTo p x Post)
    (hf : ∀ a, Post a → c.KeepsTo p (f a) Then) : c.KeepsTo p (x >>= f) Then := by
  intro s hs
  simp only [Bind.bind, EStateM.bind]
  cases h : x s with
  | ok a s₁ =>
    obtain ⟨hs₁, ha⟩ := hx.ok hs h
    exact hf a ha s₁ hs₁
  | error err s₁ => exact hx.error hs h

end

theorem keepsTo_next : c.KeepsTo p Stream.next fun t => ∃ read rest, p.Bears t read rest := by
  intro s hs
  cases h : s.next with
  | ok t s' => exact hs.next h
  | error err s' => exact faults_of_next hs h

/-- A failure that concerns a token is reported where the token stands. -/
theorem sound_fail {α : Type} {Post : α → Prop} {read rest : List Char} {cause : GrammarError}
    (hs : s.Reads p) (ht : p.Bears t read rest)
    (hcause : ∀ before here loc, p.Point read rest before here →
      c.Reports p before here (.grammar cause loc)) :
    c.Sound p Post (Stream.fail cause t s) := by
  obtain ⟨before, here, hpoint⟩ := Place.exists_point ht.content_eq
  refine faults_of_point hpoint ?_ (hcause before here _ hpoint)
  rw [Error.location?, ht.start_eq, hs.locationOf_eq hpoint]

/-- A token that was not expected is reported where it stands, and the end of the marker at its
closing delimiter. -/
theorem sound_unexpected {α : Type} {Post : α → Prop} {read rest : List Char}
    {expected : Expectation} (hs : s.Reads p) (ht : p.Bears t read rest) :
    c.Sound p Post (Stream.unexpected expected t s) := by
  refine sound_fail hs ht fun before here loc hpoint => ?_
  by_cases hend : t.isEnd = true
  · have hdescribe : t.describe = Token.Kind.endMarker.label := by
      rw [Token.describe, if_pos hend, Token.isEnd_iff.1 hend]
    have hrest := ht.rest_eq_nil hend
    have hread : p.content.toList = read := by rw [ht.content_eq, hrest, List.append_nil]
    rw [hrest, ← hread] at hpoint
    rw [hdescribe]
    exact .markerEnd hpoint (by rw [hpoint.here_eq]; exact List.prefix_append _ _)
  · have hend : t.isEnd = false := by simpa using hend
    exact .token hpoint hend (ht.text_ne_empty hend) (hpoint.prefix_here (ht.text_prefix hend))

theorem keepsTo_expectEnd : c.KeepsTo p Stream.expectEnd fun _ => True := by
  refine keepsTo_next.bind fun t ht => ?_
  obtain ⟨read, rest, ht⟩ := ht
  split
  · exact keepsTo_pure trivial
  · exact fun s hs => sound_unexpected hs ht

end Compiler

end TextTemplate
