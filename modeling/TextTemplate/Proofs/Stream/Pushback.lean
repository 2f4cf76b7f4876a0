import Mathlib.Data.Stream.Init
import TextTemplate.Proofs.Stream.Tiling

/-!
# Streams as ideal sequences

What is read from a text does not depend on when it is read. Every text has a sequence of results,
which goes on for ever: its tokens, and then the end marker again and again, or else the error for
the first place where no token stands, again and again. A stream hands out this sequence, one result
for each call. Tokens that are pushed back are put in front of what is still to come and change
nothing behind them.

The sequence of a text is described by the text alone: the tokens are the longest lexemes one behind
the other, and their lines move on with the line feeds between them.

## Main definitions

* `Stream.Reading`: the tokens of a text from some place on, and the result behind them.
* `Stream.results`: what a stream reads from its text, call by call.
* `Request`, `Request.serve`: calls and what they are answered.
* `Ideal`: a sequence of results with pushed tokens at its front.

## Main results

* `Stream.results_of_reading`: what is read from a text is its sequence.
* `Stream.follows_next`: a call removes the front of the sequence.
* `Stream.serve_eq_ideal`: any calls are answered from the sequence.
-/

namespace TextTemplate

/-! ### Calls -/

/-- What is asked of a supply of tokens. -/
inductive Request where
  /-- The next token is to be delivered. -/
  | next
  /-- A token is to be taken back. -/
  | push (t : Token)

namespace Request

variable {σ τ : Type} {next : σ → Except Error Token × σ} {push : Token → σ → σ}
  {next' : τ → Except Error Token × τ} {push' : Token → τ → τ} {s : σ} {a : τ}

/-- What the calls for a token are answered, one after the other, and the state in the end. -/
def serve (next : σ → Except Error Token × σ) (push : Token → σ → σ) :
    List Request → σ → List (Except Error Token) × σ
  | [], s => ([], s)
  | .next :: requests, s =>
    let (result, s') := next s
    let (results, last) := serve next push requests s'
    (result :: results, last)
  | .push t :: requests, s => serve next push requests (push t s)

/-- If every call is answered alike and keeps two states related, so are all calls. -/
theorem serve_of_related {R : σ → τ → Prop}
    (hnext : ∀ s a, R s a → (next s).1 = (next' a).1 ∧ R (next s).2 (next' a).2)
    (hpush : ∀ s a t, R s a → R (push t s) (push' t a)) (requests : List Request) (h : R s a) :
    (serve next push requests s).1 = (serve next' push' requests a).1 ∧
      R (serve next push requests s).2 (serve next' push' requests a).2 := by
  induction requests generalizing s a with
  | nil => exact ⟨rfl, h⟩
  | cons request requests ih =>
    cases request with
    | next =>
      obtain ⟨hresult, hstate⟩ := hnext s a h
      obtain ⟨hresults, hlast⟩ := ih hstate
      exact ⟨congrArg₂ _ hresult hresults, hlast⟩
    | push t => exact ih (hpush s a t h)

end Request

/-- A sequence of results that goes on for ever, and the number of tokens at its front that were
pushed back. -/
structure Ideal where
  sequence : Stream' (Except Error Token)
  pushed : Nat

namespace Ideal

/-- The first result, and the sequence behind it. -/
def next (a : Ideal) : Except Error Token × Ideal :=
  (a.sequence.head, ⟨a.sequence.tail, a.pushed - 1⟩)

/-- The sequence with one more token in front. -/
def push (t : Token) (a : Ideal) : Ideal :=
  ⟨a.sequence.cons (.ok t), a.pushed + 1⟩

/-- What calls are answered from the sequence. -/
def serve (requests : List Request) (a : Ideal) : List (Except Error Token) × Ideal :=
  Request.serve next push requests a

end Ideal

namespace Stream

variable {content read gap : List Char} {origin : Location} {line : String} {s s' : Stream}
  {t : Token} {ts : List Token} {last : Except Error Token} {err : Error}

/-- A result and the stream behind it. -/
def outcome {α : Type} : EStateM.Result Error Stream α → Except Error α × Stream
  | .ok a s => (.ok a, s)
  | .error err s => (.error err, s)

/-- What calls are answered by a stream. -/
def serve (requests : List Request) (s : Stream) : List (Except Error Token) × Stream :=
  Request.serve (fun s => outcome s.next) (fun t s => (outcome (push t s)).2) requests s

/-! ### The sequence of a text -/

/-- The tokens of a text behind a part of it whose last line is given, and the result that comes
behind the tokens for ever: the end marker, or the error for a place where no lexeme stands. -/
inductive Reading (content : List Char) (origin : Location) :
    List Char → String → List Token → Except Error Token → Prop where
  | finish {read gap : List Char} {line : String} (hcontent : content = read ++ gap)
      (hgap : ∀ c ∈ gap, Lexeme.isBlank c = true) :
      Reading content origin read line []
        (.ok ⟨.endMarker, "", utf8Length content, utf8Length content, lineAfter line gap []⟩)
  | fault {read gap cs : List Char} {c : Char} {line : String}
      (hcontent : content = read ++ gap ++ c :: cs) (hgap : ∀ c ∈ gap, Lexeme.isBlank c = true)
      (hc : Lexeme.isBlank c = false)
      (hnone : ∀ kind text, Lexeme.Formed kind text → ¬ text <+: c :: cs) :
      Reading content origin read line []
        (.error (.lexical (lexicalError c) (origin.advance (read ++ gap))))
  | token {read gap here : List Char} {line : String} {t : Token} {ts : List Token}
      {last : Except Error Token} (hgap : ∀ c ∈ gap, Lexeme.isBlank c = true)
      (ht : t.StandsIn content (read ++ gap) here) (hline : t.line = lineAfter line gap here)
      (hrest : Reading content origin (read ++ gap ++ t.text.toList) t.line ts last) :
      Reading content origin read line (t :: ts) last

/-- The line moves on with the line feeds in the gap before a token. -/
theorem line_of_next (hs : s.HasRead content origin read) (h : s.next = .ok t s')
    {rest : List Char} (hcontent : content = read ++ gap ++ rest)
    (hgap : ∀ c ∈ gap, Lexeme.isBlank c = true)
    (hrest : ∀ c ∈ rest.head?, Lexeme.isBlank c = false) :
    s'.line = t.line ∧ t.line = lineAfter s.line gap rest := by
  have hsplit : s.rest = gap ++ rest := by
    rw [← hs.read_append_rest, List.append_assoc] at hcontent
    exact List.append_cancel_left hcontent
  obtain ⟨htake, hdrop⟩ := takeWhile_isBlank_append hgap hrest
  rw [← hsplit] at htake hdrop
  rw [next, hs.pending_eq_nil] at h
  have hscans := s.scans
  rw [show s.scan = .ok t s' from h] at hscans
  cases hscans with
  | again hfinished =>
    obtain ⟨rfl, rfl⟩ := List.append_eq_nil_iff.1 (hsplit.symm.trans (hs.rest_eq_nil hfinished))
    exact ⟨rfl, rfl⟩
  | finish _ hahead hs' =>
    subst hs'
    obtain rfl : rest = [] := hdrop.symm.trans hahead
    exact ⟨rfl, congrArg (lineAfter s.line · []) htake⟩
  | token _ _ _ hline => exact ⟨rfl, hline.trans (congrArg₂ (lineAfter s.line) htake hdrop)⟩

/-- Every text has its tokens and a result behind them. -/
theorem exists_reading (hs : s.HasRead content origin read) :
    ∃ ts last, Reading content origin read s.line ts last := by
  fun_induction tokens s generalizing read with
  | case1 s err s' h =>
    obtain ⟨gap, rest, hcontent, hgap, hhead, hadvances⟩ := exists_advances hs
    rw [h] at hadvances
    cases hadvances with
    | fault hnone => exact ⟨[], _, .fault hcontent hgap (hhead _ rfl) hnone⟩
  | case2 s t s' h hend =>
    obtain ⟨gap, rest, hcontent, hgap, hhead, hadvances⟩ := exists_advances hs
    rw [h] at hadvances
    cases hadvances with
    | finish _ _ => exact ⟨[], _, .finish (by rw [hcontent, List.append_nil]) hgap⟩
    | token hend' _ _ =>
      rw [hend] at hend'
      cases hend'
  | case3 s t s' h hend ih =>
    obtain ⟨gap, rest, hcontent, hgap, hhead, hadvances⟩ := exists_advances hs
    obtain ⟨hline', hline⟩ := line_of_next hs h hcontent hgap hhead
    rw [h] at hadvances
    cases hadvances with
    | finish _ ht => exact absurd (by rw [ht]; rfl) hend
    | token _ ht hs' =>
      obtain ⟨ts, last, hreading⟩ := ih hs'
      rw [hline'] at hreading
      exact ⟨t :: ts, last, .token hgap ht hline hreading⟩

/-! ### Reading the sequence -/

/-- What a stream reads from its text, call by call, if nothing is pushed back. -/
def results (s : Stream) : Stream' (Except Error Token) :=
  Stream'.corec (fun s => (outcome s.scan).1) (fun s => (outcome s.scan).2) { s with pending := [] }

/-- A call that fails leaves the stream as it is, and nothing was pushed back. -/
theorem eq_of_next_eq_error (h : s.next = .error err s') : s' = s ∧ s.pending = [] := by
  obtain ⟨hpending, hscan⟩ := scan_of_next_eq_error h
  have hscans := s.scans
  rw [hscan] at hscans
  cases hscans with
  | fault => exact ⟨rfl, hpending⟩

/-- What a call reports when it fails is about the text. -/
theorem exists_lexical_of_next (h : s.next = .error err s') :
    ∃ cause loc, err = .lexical cause loc := by
  have hscans := s.scans
  rw [(scan_of_next_eq_error h).2] at hscans
  cases hscans with
  | fault => exact ⟨_, _, rfl⟩

theorem pending_outcome_next (hs : s.pending = []) : (outcome s.next).2.pending = [] := by
  cases h : s.next with
  | error err s' => exact (eq_of_next_eq_error h).1 ▸ hs
  | ok t s' => exact pending_of_next hs h

theorem with_pending_nil (hs : s.pending = []) : { s with pending := [] } = s := by
  rw [← hs]

/-- The first result is that of a call, and the others are read behind it. -/
theorem results_eq_cons (hs : s.pending = []) :
    s.results = (outcome s.next).2.results.cons (outcome s.next).1 := by
  have hnext : s.next = s.scan := by rw [next, hs]
  have hpending := with_pending_nil (pending_outcome_next hs)
  rw [hnext] at hpending
  rw [results, results, with_pending_nil hs, Stream'.corec_eq, hnext, hpending]

/-- If a call changes nothing, its result comes for ever. -/
theorem results_eq_const (hs : s.pending = []) (h : (outcome s.next).2 = s) :
    s.results = Stream'.const (outcome s.next).1 := by
  have hcons := results_eq_cons hs
  rw [h] at hcons
  have hhead := congrArg Stream'.head hcons
  have htail := congrArg Stream'.tail hcons
  exact Stream'.bisim_simple _ _ hhead htail.symm (Stream'.tail_const _).symm

/-- Behind the end marker there are end markers for ever. -/
theorem results_of_isEnd (hs : s.pending = []) (h : s.next = .ok t s') (ht : t.isEnd = true) :
    s.results = Stream'.const (.ok t) ∧ s'.results = Stream'.const (.ok t) := by
  obtain ⟨hspent, hnext⟩ := next_of_isEnd hs h ht
  have hs' : s'.results = Stream'.const (.ok t) := by
    rw [results_eq_const hspent.pending_eq_nil (by rw [hnext]; rfl), hnext]
    rfl
  refine ⟨?_, hs'⟩
  rw [results_eq_cons hs, h, Stream'.const_eq, ← hs']
  rfl

/-- What is read from a text is its sequence. -/
theorem results_of_reading (h : Reading content origin read line ts last)
    (hs : s.HasRead content origin read) (hline : s.line = line) :
    s.results = ts.map .ok ++ₛ Stream'.const last := by
  induction h generalizing s with
  | @finish read gap line hcontent hgap =>
    subst hline
    have hsplit : content = read ++ gap ++ [] := by rw [hcontent, List.append_nil]
    have hadvances := hs.advances hsplit hgap (by simp)
    generalize hnext : s.next = result at hadvances
    cases hadvances with
    | finish _ ht =>
      obtain ⟨hline', hline⟩ := line_of_next hs hnext hsplit hgap (by simp)
      rw [(results_of_isEnd hs.pending_eq_nil hnext (by rw [ht]; rfl)).1, ht, hline', hline]
      rfl
    | token _ ht _ => exact absurd rfl ht.here_ne_nil
  | fault hcontent hgap hc hnone =>
    have hadvances := hs.advances hcontent hgap (by simpa using hc)
    generalize hnext : s.next = result at hadvances
    cases hadvances with
    | token _ ht _ =>
      exact absurd ht.isLongest.front (hnone _ _ ht.isLongest.formed)
    | fault _ =>
      rw [results_eq_const hs.pending_eq_nil (by rw [hnext]; rfl), hnext]
      rfl
  | @token read gap here line t ts last hgap ht hline' _ ih =>
    subst hline
    obtain ⟨t', s', hnext, -, ht', -, -, hs'⟩ := hs.exists_next ht.content_eq hgap ht.isLongest
    obtain ⟨hline₁, hline₂⟩ := line_of_next hs hnext ht.content_eq hgap ht.isLongest.isBlank_head
    obtain rfl : t' = t := ht'.eq ht (hline₂.trans hline'.symm)
    rw [results_eq_cons hs.pending_eq_nil, hnext, List.map_cons, Stream'.cons_append_stream,
      ← ih hs' hline₁]
    rfl

/-! ### Calls in any order -/

/-- The results to come: the tokens that were pushed back, and then what is read from the text. -/
def upcoming (s : Stream) : Stream' (Except Error Token) :=
  s.pending.map .ok ++ₛ s.results

/-- A stream and a sequence that come to the same. -/
structure Follows (s : Stream) (a : Ideal) : Prop where
  sequence_eq : a.sequence = s.upcoming
  pushed_eq : a.pushed = s.pending.length

/-- A call removes the front of the sequence. -/
theorem follows_next {a : Ideal} (h : Follows s a) :
    (outcome s.next).1 = a.next.1 ∧ Follows (outcome s.next).2 a.next.2 := by
  obtain ⟨hsequence, hpushed⟩ := h
  cases hpending : s.pending with
  | nil =>
    have hupcoming : s.upcoming = s.results := by
      rw [upcoming, hpending]
      rfl
    have hpending' := pending_outcome_next hpending
    rw [hupcoming, results_eq_cons hpending] at hsequence
    refine ⟨by rw [Ideal.next, hsequence, Stream'.head_cons], ?_, ?_⟩
    · rw [Ideal.next, hsequence, Stream'.tail_cons, upcoming, hpending']
      rfl
    · rw [Ideal.next, hpushed, hpending, hpending']
      rfl
  | cons t pending =>
    have hnext : s.next = .ok t { s with pending } := by rw [next, hpending]
    rw [upcoming, hpending, List.map_cons, Stream'.cons_append_stream] at hsequence
    rw [hnext]
    refine ⟨by rw [Ideal.next, hsequence, Stream'.head_cons]; rfl, ?_, ?_⟩
    · rw [Ideal.next, hsequence, Stream'.tail_cons]
      rfl
    · rw [Ideal.next, hpushed, hpending]
      rfl

/-- A token that is pushed back is put in front of the sequence. -/
theorem follows_push {a : Ideal} (h : Follows s a) (t : Token) :
    Follows (outcome (push t s)).2 (a.push t) := by
  obtain ⟨hsequence, hpushed⟩ := h
  refine ⟨?_, ?_⟩
  · rw [Ideal.push, hsequence]
    rfl
  · rw [Ideal.push, hpushed]
    rfl

/-- All calls are answered from the sequence. -/
theorem follows_serve {a : Ideal} (requests : List Request) (h : Follows s a) :
    (serve requests s).1 = (Ideal.serve requests a).1 ∧
      Follows (serve requests s).2 (Ideal.serve requests a).2 :=
  Request.serve_of_related (fun _ _ h => follows_next h) (fun _ _ t h => follows_push h t)
    requests h

/-- Where nothing is pushed back, calls are answered from what is read. -/
theorem serve_of_results {S : Stream' (Except Error Token)} (hs : s.pending = [])
    (h : s.results = S) (requests : List Request) :
    (serve requests s).1 = (Ideal.serve requests ⟨S, 0⟩).1 ∧
      Follows (serve requests s).2 (Ideal.serve requests ⟨S, 0⟩).2 := by
  have hupcoming : s.upcoming = S := by
    rw [upcoming, hs, h]
    rfl
  exact follows_serve requests ⟨hupcoming.symm, by rw [hs]; rfl⟩

/-- A text has its tokens and a result behind them that comes for ever. Whatever is asked of a
stream of the text, and in whatever order, each call is answered with the first of these results,
and pushed tokens are put in front of them; the stream knows how many of them are left. A token that
is pushed and delivered again leaves the stream as it was, and so does a call that fails. Once the
end marker has been read, no other token is read any more. -/
theorem serve_eq_ideal (content : String) (origin : Location) :
    ∃ ts last,
      Reading content.toList origin [] (String.ofList (firstLine content.toList)) ts last ∧
      ∀ requests : List Request,
        let s := (serve requests (ofContent content origin)).2
        let a := (Ideal.serve requests ⟨ts.map .ok ++ₛ Stream'.const last, 0⟩).2
        (serve requests (ofContent content origin)).1 =
            (Ideal.serve requests ⟨ts.map .ok ++ₛ Stream'.const last, 0⟩).1 ∧
          s.pending.length = a.pushed ∧
          (∀ t, ∃ s', push t s = .ok () s' ∧ s'.pending.length = s.pending.length + 1 ∧
            s'.next = .ok t s) ∧
          (∀ err s', s.next = .error err s' → s' = s) ∧
          ∀ t s', s.pending = [] → s.next = .ok t s' → t.isEnd = true → ∀ later,
            (serve later s').1 = (Ideal.serve later ⟨Stream'.const (.ok t), 0⟩).1 := by
  have hs := hasRead_ofContent content origin
  obtain ⟨ts, last, hreading⟩ := exists_reading hs
  refine ⟨ts, last, hreading, fun requests => ?_⟩
  obtain ⟨hanswers, hfollows⟩ :=
    serve_of_results hs.pending_eq_nil (results_of_reading hreading hs rfl) requests
  refine ⟨hanswers, hfollows.pushed_eq.symm, fun t => ⟨_, rfl, rfl, rfl⟩,
    fun err s' herror => (eq_of_next_eq_error herror).1, fun t s' hpending hnext hend later => ?_⟩
  have hs' := (next_of_isEnd hpending hnext hend).1.pending_eq_nil
  exact (serve_of_results hs' (results_of_isEnd hpending hnext hend).2 later).1

/-- A token that was pushed comes before the fault, which stays where it is. -/
example (t : Token) :
    (serve [.next, .push t, .next, .next, .next] (ofContent "a\n?" .start)).1 =
      [.ok ⟨.name, "a", 0, 1, "a"⟩, .ok t, .error (.lexical (.unexpectedChar '?') ⟨2, 1⟩),
        .error (.lexical (.unexpectedChar '?') ⟨2, 1⟩)] := by
  rfl

end Stream

end TextTemplate
