import TextTemplate.Proofs.Expr.Recognition
import TextTemplate.Proofs.Plan.Printing

/-!
# Compiling what was written

Compiling the text of a plan gives the plan back, with the locations of the written markers. The
text passes four layers, and each of them recovers what was put in: the template is cut at the
markers that were written, the marker delivers the words that were written, the words derive the
expression or the header, and the spans match the nodes.

A plan is followed by the end of the text, by a later node or by the end of a tag. In all cases no
literal text comes next, so literal text is cut off where it was written to end.

## Main results

* `Expr.derives_of_words`, `TagCall.derives_of_words`: words derive what they were written for.
* `Compiler.cut_writtenAll`: cutting the text of some nodes gives spans that match them.
* `Compiler.compile_writtenAll`: compiling the text of a plan gives the plan.
-/

namespace TextTemplate

/-! ### Words fit into a marker -/

namespace Lexeme

/-- The name of the end of a tag is a name. -/
theorem isName_endName {name : String} (h : IsName name.toList) : IsName (endName name).toList := by
  rw [toList_endName]
  exact ⟨by decide, List.forall_mem_cons.2 ⟨by decide,
    List.forall_mem_cons.2 ⟨by decide, h.isContinue⟩⟩⟩

end Lexeme

namespace Word

/-- A word is spelled as its kind asks, and does not close the marker. -/
def Fits (m : Marker) (w : Word) : Prop :=
  Lexeme.Spells w.1 w.2.toList ∧ ¬ m.closer <:+: w.2.toList

/-- A text without a closing brace does not close a marker. -/
theorem not_closer_infix {cs : List Char} (m : Marker) (h : '}' ∉ cs) : ¬ m.closer <:+: cs := by
  intro hclose
  have hbrace : '}' ∈ m.closer := List.mem_cons_of_mem _ List.mem_cons_self
  exact h (hclose.subset hbrace)

theorem fits_ofName {m : Marker} {name : String} (h : Lexeme.IsName name.toList) :
    (ofName name).Fits m := by
  refine ⟨.name h, not_closer_infix m fun hbrace => ?_⟩
  have hcontinue := h.isContinue '}' hbrace
  exact absurd hcontinue (by decide)

theorem fits_ofOperator (m : Marker) {op : Operator} (h : op ≠ .rightBrace) :
    (ofOperator op).Fits m := by
  have hlist : (ofOperator op).2.toList = op.spelling := String.toList_ofList
  refine ⟨hlist ▸ .operator op, not_closer_infix m ?_⟩
  rw [hlist]
  cases op <;> first | exact absurd rfl h | decide

theorem toList_toString_ofNat (k : Nat) : (toString (k : Int)).toList = Nat.toDigits 10 k :=
  Nat.toList_repr

/-- A string in quotes closes a marker only if the string itself does. -/
theorem not_closer_infix_enclosed {m : Marker} {quote : Char} {cs : List Char}
    (hquote : Lexeme.isQuote quote = true) (h : ¬ m.closer <:+: cs) :
    ¬ m.closer <:+: quote :: (cs ++ [quote]) := by
  have hbrace : quote ≠ '}' := by
    rintro rfl
    exact absurd hquote (by decide)
  have hsign : quote ≠ m.closingSign := by
    rintro rfl
    exact absurd hquote (by cases m <;> decide)
  rw [List.infix_cons_iff, List.infix_concat_iff, List.suffix_concat_iff]
  rintro (⟨post, hpost⟩ | (hnil | ⟨t, hclose, -⟩) | hinfix)
  · exact hsign (List.cons.inj hpost).1.symm
  · cases hnil
  · have hlast := congrArg List.getLast? hclose
    simp only [Marker.closer, List.getLast?_append, List.getLast?_singleton,
      List.getLast?_cons_cons, Option.some_or, Option.some.injEq] at hlast
    exact hbrace hlast.symm
  · exact h hinfix

theorem fits_ofLiteral (q : Quoting) {m : Marker} {v : Value} (h : v.Writable m) :
    ∀ w ∈ ofLiteral q v, w.Fits m := by
  intro w hw
  cases v with
  | int n =>
    obtain ⟨k, hk⟩ := Int.eq_ofNat_of_zero_le h
    obtain rfl := List.mem_singleton.1 hw
    have hdigits : ∀ c ∈ Nat.toDigits 10 k, c.isDigit = true := fun c hc =>
      Nat.isDigit_of_mem_toDigits (by decide) (by decide) hc
    simp only [Fits, hk, toList_toString_ofNat]
    refine ⟨.number ⟨Nat.toDigits_ne_nil, hdigits⟩, not_closer_infix m fun hbrace => ?_⟩
    exact absurd (hdigits '}' hbrace) (by decide)
  | string s =>
    obtain ⟨hquote, hquotable⟩ := q.canEnclose s h.1
    obtain rfl := List.mem_singleton.1 hw
    simp only [Fits, String.toList_ofList]
    exact ⟨.string hquote hquotable, not_closer_infix_enclosed hquote h.2⟩
  | null | bool | float | list | map => exact absurd h id

end Word

theorem Expr.fits_words (q : Quoting) {m : Marker} {e : Expr} (h : e.Writable m) :
    ∀ w ∈ e.words q, w.Fits m := by
  induction e with
  | literal v => exact Word.fits_ofLiteral q h
  | lookup name => exact List.forall_mem_singleton.2 (Word.fits_ofName h)
  | member base name ih =>
    refine List.forall_mem_append.2 ⟨ih h.1, List.forall_mem_cons.2 ⟨?_, ?_⟩⟩
    · exact Word.fits_ofOperator m (by decide)
    · exact List.forall_mem_singleton.2 (Word.fits_ofName h.2)
  | item base key ihbase ihkey =>
    refine List.forall_mem_append.2 ⟨ihbase h.1, List.forall_mem_cons.2 ⟨?_,
      List.forall_mem_append.2 ⟨ihkey h.2, List.forall_mem_singleton.2 ?_⟩⟩⟩
    · exact Word.fits_ofOperator m (by decide)
    · exact Word.fits_ofOperator m (by decide)

theorem TagCall.fits_words (q : Quoting) {c : Compiler} {call : TagCall} (h : c.AcceptsCall call) :
    ∀ w ∈ call.words q, w.Fits .block := by
  refine List.forall_mem_cons.2 ⟨Word.fits_ofName h.isName, List.forall_mem_append.2 ⟨?_, ?_⟩⟩
  · intro w hw
    obtain ⟨e, he, hw⟩ := List.mem_flatMap.1 hw
    exact Expr.fits_words q (h.args e he).writable w hw
  · intro w hw
    obtain ⟨kwarg, hkwarg, hw⟩ := List.mem_flatMap.1 hw
    obtain ⟨hname, haccepts⟩ := h.kwargs kwarg hkwarg
    refine List.forall_mem_cons.2 ⟨Word.fits_ofName hname, List.forall_mem_cons.2 ⟨?_, ?_⟩⟩ w hw
    · exact Word.fits_ofOperator _ (by decide)
    · exact Expr.fits_words q haccepts.writable

/-! ### Words derive what they were written for -/

/-- The digits of a number that fits into 64 bits denote the number. -/
theorem Expr.number?_toDigits {n : Int64} {k : Nat} (hk : n.toInt = k) :
    Expr.number? (Nat.toDigits 10 k) = some (.int n) := by
  have hpoint : '.' ∉ Nat.toDigits 10 k := fun hmem =>
    absurd (Nat.isDigit_of_mem_toDigits (by decide) (by decide) hmem) (by decide)
  exact (Expr.number?_integer hpoint).2 ⟨n, by rw [hk, Nat.ofDigitChars_ten_toDigits], rfl⟩

theorem Expr.atom_of_ofLiteral (q : Quoting) {m : Marker} {v : Value} (h : v.Writable m) :
    ∃ w, Word.ofLiteral q v = [w] ∧ ∀ t : Token, t.word = w → Expr.atom t = .ok (.literal v) := by
  cases v with
  | int n =>
    obtain ⟨k, hk⟩ := Int.eq_ofNat_of_zero_le h
    refine ⟨_, rfl, fun t ht => ?_⟩
    obtain ⟨hkind, htext⟩ := Prod.mk.inj ht
    simp only [Expr.atom, hkind, htext, hk, Word.toList_toString_ofNat, Expr.number?_toDigits hk]
  | string s =>
    refine ⟨_, rfl, fun t ht => ?_⟩
    obtain ⟨hkind, htext⟩ := Prod.mk.inj ht
    simp [Expr.atom, hkind, htext, Expr.unquoted]
  | null | bool | float | list | map => exact absurd h id

/-- The words of an expression derive the expression. -/
theorem Expr.derives_of_words (q : Quoting) {m : Marker} {e : Expr} (h : e.Writable m)
    {ts : List Token} (hts : ts.map Token.word = e.words q) : Expr.Derives ts e := by
  induction e generalizing ts with
  | literal v =>
    obtain ⟨w, hw, hatom⟩ := Expr.atom_of_ofLiteral q h
    rw [Expr.words, hw] at hts
    obtain ⟨t, rfl, ht⟩ := List.map_eq_singleton_iff.1 hts
    exact .atom (hatom t ht)
  | lookup name =>
    obtain ⟨t, rfl, ht⟩ := List.map_eq_singleton_iff.1 hts
    obtain ⟨hkind, htext⟩ := Prod.mk.inj ht
    exact .atom (by rw [Expr.atom, hkind, htext])
  | member base name ih =>
    obtain ⟨us, vs, rfl, hus, hvs⟩ := List.map_eq_append_iff.1 hts
    obtain ⟨dot, ns, rfl, hdot, hns⟩ := List.map_eq_cons_iff.1 hvs
    obtain ⟨t, rfl, ht⟩ := List.map_eq_singleton_iff.1 hns
    obtain ⟨hkind, rfl⟩ := Prod.mk.inj ht
    exact .member (ih h.1 hus) (Prod.mk.inj hdot).1 hkind
  | item base key ihbase ihkey =>
    obtain ⟨us, vs, rfl, hus, hvs⟩ := List.map_eq_append_iff.1 hts
    obtain ⟨left, ws, rfl, hleft, hws⟩ := List.map_eq_cons_iff.1 hvs
    obtain ⟨ks, rs, rfl, hks, hrs⟩ := List.map_eq_append_iff.1 hws
    obtain ⟨right, rfl, hright⟩ := List.map_eq_singleton_iff.1 hrs
    exact .item (ihbase h.1 hus) (Prod.mk.inj hleft).1 (ihkey h.2 hks) (Prod.mk.inj hright).1

namespace TagCall

/-- The arguments of a call, positional ones first. -/
def arguments (call : TagCall) : List Argument :=
  call.args.map .positional ++ call.kwargs.map fun kwarg => .keyword kwarg.1 kwarg.2

theorem filterMap_arguments {β : Type} (f : Argument → Option β) (call : TagCall) :
    call.arguments.filterMap f = call.args.filterMap (fun e => f (.positional e)) ++
      call.kwargs.filterMap fun kwarg => f (.keyword kwarg.1 kwarg.2) := by
  rw [arguments, List.filterMap_append, List.filterMap_map, List.filterMap_map]
  rfl

theorem ofArguments_arguments (call : TagCall) :
    TagHeader.ofArguments call.name call.arguments = ⟨call.name, call.args, call.kwargs⟩ := by
  rw [TagHeader.ofArguments, filterMap_arguments, filterMap_arguments]
  simp

private theorem derives_of_kwargs (q : Quoting) {c : Compiler} {kwargs : List (String × Expr)}
    (h : ∀ kwarg ∈ kwargs, c.Accepts .block kwarg.2) {ts : List Token}
    (hts : ts.map Token.word = kwargs.flatMap (Word.ofKwarg q)) :
    Argument.Derives ts (kwargs.map fun kwarg => .keyword kwarg.1 kwarg.2) := by
  induction kwargs generalizing ts with
  | nil =>
    obtain rfl := List.map_eq_nil_iff.1 hts
    exact .nil
  | cons kwarg kwargs ih =>
    obtain ⟨us, vs, rfl, hus, hvs⟩ := List.map_eq_append_iff.1 hts
    obtain ⟨t, us₁, rfl, ht, hus₁⟩ := List.map_eq_cons_iff.1 hus
    obtain ⟨equal, us₂, rfl, hequal, hus₂⟩ := List.map_eq_cons_iff.1 hus₁
    obtain ⟨hkind, htext⟩ := Prod.mk.inj ht
    have hderives := Expr.derives_of_words q (h kwarg List.mem_cons_self).writable hus₂
    have hrest := ih (fun k hk => h k (List.mem_cons_of_mem _ hk)) hvs
    rw [List.map_cons, ← htext]
    exact .keyword hkind (Prod.mk.inj hequal).1 hderives hrest

private theorem derives_of_args (q : Quoting) {args : List Expr}
    (h : ∀ e ∈ args, e.Writable .block) {words : List Word} {arguments : List Argument}
    (hwords : ∀ us : List Token, us.map Token.word = words → Argument.Derives us arguments)
    {ts : List Token} (hts : ts.map Token.word = args.flatMap (Expr.words q) ++ words) :
    Argument.Derives ts (args.map .positional ++ arguments) := by
  induction args generalizing ts with
  | nil => exact hwords ts hts
  | cons e args ih =>
    rw [List.flatMap_cons, List.append_assoc] at hts
    obtain ⟨us, vs, rfl, hus, hvs⟩ := List.map_eq_append_iff.1 hts
    have hderives := Expr.derives_of_words q (h e List.mem_cons_self) hus
    exact .positional hderives (ih (fun d hd => h d (List.mem_cons_of_mem _ hd)) hvs)

/-- The words of a tag derive its header. -/
theorem derives_of_words (q : Quoting) {c : Compiler} {call : TagCall} (h : c.AcceptsCall call)
    {ts : List Token} (hts : ts.map Token.word = call.words q) :
    ∃ t us, ts = t :: us ∧ t.word = Word.ofName call.name ∧
      Argument.Derives us call.arguments := by
  obtain ⟨t, us, rfl, ht, hus⟩ := List.map_eq_cons_iff.1 hts
  have hkwargs : ∀ vs : List Token, vs.map Token.word = call.kwargs.flatMap (Word.ofKwarg q) →
      Argument.Derives vs (call.kwargs.map fun kwarg => .keyword kwarg.1 kwarg.2) :=
    fun vs hvs => derives_of_kwargs q (fun k hk => (h.kwargs k hk).2) hvs
  exact ⟨t, us, rfl, ht, derives_of_args q (fun e he => (h.args e he).writable) hkwargs hus⟩

theorem bracketDepth_le_of_mem_arguments {c : Compiler} {call : TagCall} (h : c.AcceptsCall call) :
    ∀ a ∈ call.arguments, a.value.bracketDepth ≤ c.maxDepth := by
  refine List.forall_mem_append.2 ⟨?_, ?_⟩
  · intro a ha
    obtain ⟨e, he, rfl⟩ := List.mem_map.1 ha
    exact (h.args e he).depth_le
  · intro a ha
    obtain ⟨kwarg, hkwarg, rfl⟩ := List.mem_map.1 ha
    exact (h.kwargs kwarg hkwarg).2.depth_le

end TagCall

/-! ### What a written marker holds -/

/-- The span of a marker with some words. -/
def Marker.spanOf (m : Marker) (words : List Word) (loc : Location) : Span :=
  ⟨.marker m, String.ofList (Stream.spaced words), loc⟩

section

variable {m : Marker} {words : List Word}

theorem Marker.delivers_spanOf (hwords : ∀ w ∈ words, w.Fits m) (loc : Location) :
    ∃ ts, ts.map Token.word = words ∧ (m.spanOf words loc).stream.Delivers ts none :=
  Stream.delivers_spaced (fun w hw => (hwords w hw).1) (List.forall_mem_nil _)
    String.toList_ofList rfl rfl

/-- Cutting starts with the marker that was written. -/
theorem Marker.cutFrom_enclose (hwords : ∀ w ∈ words, w.Fits m) (loc : Location)
    (after : List Char) :
    Span.cutFrom loc (m.enclose words ++ after) =
      m.spanOf words loc :: Span.cutFrom (loc.advance (m.enclose words)) after := by
  rw [enclose, List.append_assoc, List.append_assoc,
    Span.cutFrom_marker (Stream.closesOnce_spaced fun w hw => (hwords w hw).2)]
  rfl

theorem Marker.begins_enclose (m : Marker) (words : List Word) (after : List Char) :
    Marker.Begins (m.enclose words ++ after) :=
  ⟨m, Stream.spaced words ++ (m.closer ++ after), by simp [enclose],
    ⟨Stream.spaced words, after, by simp⟩⟩

end

namespace Compiler

variable {c : Compiler} {opened : List String} {nodes : List Node}

theorem holdsExpression_spanOf (q : Quoting) {e : Expr} (h : c.Accepts .expression e)
    (loc : Location) : c.HoldsExpression (Marker.expression.spanOf (e.words q) loc) e := by
  obtain ⟨ts, hts, hs⟩ := Marker.delivers_spanOf (Expr.fits_words q h.writable) loc
  rw [← List.append_nil ts] at hs
  have hderives := Expr.derives_of_words q h.writable hts
  obtain ⟨s', hparse, hs'⟩ :=
    Expr.parse_eq_ok_of_derives hderives h.depth_le hs fun t ht => by simp at ht
  exact ⟨s', hparse, hs'.atEnd⟩

theorem holdsHeader_spanOf (q : Quoting) {call : TagCall} (h : c.AcceptsCall call)
    (loc : Location) :
    c.HoldsHeader (Marker.block.spanOf (call.words q) loc) ⟨call.name, call.args, call.kwargs⟩ := by
  obtain ⟨ts, hts, hs⟩ := Marker.delivers_spanOf (TagCall.fits_words q h) loc
  obtain ⟨t, us, rfl, ht, hderives⟩ := TagCall.derives_of_words q h hts
  obtain ⟨hkind, htext⟩ := Prod.mk.inj ht
  have hparse := TagHeader.parse_of_derives hkind hderives
    (TagCall.bracketDepth_le_of_mem_arguments h) hs
  rwa [htext, TagCall.ofArguments_arguments] at hparse

theorem holdsOnly_spanOf {name : String} (h : Lexeme.IsName name.toList) (loc : Location) :
    (Marker.block.spanOf [.ofName name] loc).HoldsOnly name := by
  have hfits : ∀ w ∈ [Word.ofName name], w.Fits .block :=
    List.forall_mem_singleton.2 (Word.fits_ofName h)
  obtain ⟨ts, hts, hs⟩ := Marker.delivers_spanOf hfits loc
  obtain ⟨t, rfl, ht⟩ := List.map_eq_singleton_iff.1 hts
  obtain ⟨hkind, htext⟩ := Prod.mk.inj ht
  obtain ⟨s', hnext, -, hs'⟩ := Stream.delivers_cons_iff.1 hs
  exact ⟨t, s', hnext, hkind, htext, hs'.atEnd⟩

/-! ### The spans of a written plan -/

/-- Nodes that do not start with literal text are written as nothing or start with a marker. -/
theorem writtenAll_eq_nil_or_begins (q : Quoting) {after : List Char}
    (hapart : ∀ t, nodes.head? ≠ some (.text t)) (hafter : after = [] ∨ Marker.Begins after) :
    Node.writtenAll q nodes ++ after = [] ∨ Marker.Begins (Node.writtenAll q nodes ++ after) := by
  cases nodes with
  | nil => exact hafter
  | cons node nodes =>
    rw [Node.writtenAll, List.append_assoc]
    cases node with
    | text s => exact absurd rfl (hapart s)
    | expression e loc => exact Or.inr (Marker.begins_enclose _ _ _)
    | tag call body =>
      rw [Node.written, List.append_assoc]
      exact Or.inr (Marker.begins_enclose _ _ _)

/-- Cutting the text of some nodes gives spans that match them. -/
theorem cut_writtenAll (q : Quoting) (h : c.Writable opened nodes) (loc : Location)
    {after : List Char} (hafter : after = [] ∨ Marker.Begins after) :
    ∃ spans, Span.cutFrom loc (Node.writtenAll q nodes ++ after) =
        spans ++ Span.cutFrom (loc.advance (Node.writtenAll q nodes)) after ∧
      c.Matches opened spans (Node.placedAll q loc nodes) := by
  induction h generalizing loc after with
  | nil => exact ⟨[], rfl, .nil⟩
  | @text opened s nodes hne hbrace hapart _ ih =>
    obtain ⟨spans, hcut, hmatches⟩ := ih (loc.advance s.toList) hafter
    have hrest := writtenAll_eq_nil_or_begins q hapart hafter
    refine ⟨⟨.text, s, loc⟩ :: spans, ?_, .text rfl hmatches⟩
    rw [Node.writtenAll, Node.written, List.append_assoc,
      Span.cutFrom_text (by simpa using hne) (isLiteral_of_not_mem hbrace) hrest, hcut,
      String.ofList_toList, Location.advance_append]
    rfl
  | @expression opened e _ nodes he _ ih =>
    obtain ⟨spans, hcut, hmatches⟩ :=
      ih (loc.advance (Marker.expression.enclose (e.words q))) hafter
    refine ⟨Marker.expression.spanOf (e.words q) loc :: spans, ?_,
      .expression rfl (holdsExpression_spanOf q he loc) hmatches⟩
    rw [Node.writtenAll, Node.written, List.append_assoc,
      Marker.cutFrom_enclose (Expr.fits_words q he.writable), hcut, Location.advance_append]
    rfl
  | @single opened call nodes hcall hopen hbody _ ih =>
    obtain ⟨spans, hcut, hmatches⟩ := ih (loc.advance (Marker.block.enclose (call.words q))) hafter
    refine ⟨Marker.block.spanOf (call.words q) loc :: spans, ?_, ?_⟩
    · rw [Node.writtenAll_single, List.append_assoc,
        Marker.cutFrom_enclose (TagCall.fits_words q hcall), hcut, Location.advance_append]
      rfl
    · rw [Node.placedAll_single]
      exact .single rfl (holdsHeader_spanOf q hcall loc) hopen hcall.registered hbody hmatches
  | @enclosing opened call body nodes hcall hopen hbody hdepth _ _ ihinner ihrest =>
    have hname := Lexeme.isName_endName hcall.isName
    have hend : ∀ w ∈ [Word.ofName (endName call.name)], w.Fits .block :=
      List.forall_mem_singleton.2 (Word.fits_ofName hname)
    let inside := loc.advance (Marker.block.enclose (call.words q))
    let behind := inside.advance (Node.writtenAll q body)
    let last := Marker.block.spanOf [.ofName (endName call.name)] behind
    let rest := Node.writtenAll q nodes ++ after
    -- the body is followed by the block that ends the tag
    have hclosing : Marker.Begins (call.closing ++ rest) := Marker.begins_enclose _ _ _
    obtain ⟨inner, hcutInner, hinner⟩ := ihinner inside (Or.inr hclosing)
    obtain ⟨spans, hcut, hmatches⟩ := ihrest (behind.advance call.closing) hafter
    have hcutLast : Span.cutFrom behind (call.closing ++ rest) =
        last :: Span.cutFrom (behind.advance call.closing) rest :=
      Marker.cutFrom_enclose hend behind rest
    refine ⟨Marker.block.spanOf (call.words q) loc :: (inner ++ last :: spans), ?_, ?_⟩
    · calc Span.cutFrom loc (Node.writtenAll q (.tag call (some body) :: nodes) ++ after)
          = Span.cutFrom loc (Marker.block.enclose (call.words q) ++
              (Node.writtenAll q body ++ (call.closing ++ rest))) := by
            simp only [Node.writtenAll_enclosing, List.append_assoc, rest]
        _ = Marker.block.spanOf (call.words q) loc ::
              (inner ++ Span.cutFrom behind (call.closing ++ rest)) := by
            rw [Marker.cutFrom_enclose (TagCall.fits_words q hcall), hcutInner]
        _ = Marker.block.spanOf (call.words q) loc :: (inner ++ last :: (spans ++ Span.cutFrom
              ((behind.advance call.closing).advance (Node.writtenAll q nodes)) after)) := by
            rw [hcutLast, hcut]
        _ = _ := by
            simp only [Node.writtenAll_enclosing, Location.advance_append, List.cons_append,
              List.append_assoc, inside, behind]
    · rw [Node.placedAll_enclosing]
      exact .enclosing rfl (holdsHeader_spanOf q hcall loc) hopen hcall.registered hbody hdepth
        hinner rfl (holdsOnly_spanOf hname behind) hmatches

/-- The spans of a written plan have this plan. -/
theorem plan_writtenAll (q : Quoting) (h : c.Writable [] nodes) :
    c.plan (Span.cut (String.ofList (Node.writtenAll q nodes))) =
      .ok (Node.placedAll q .start nodes) := by
  obtain ⟨spans, hcut, hmatches⟩ := cut_writtenAll q h .start (Or.inl rfl)
  rw [List.append_nil, Span.cutFrom_nil, List.append_nil] at hcut
  rw [plan_eq_ok_iff, Span.cut, String.toList_ofList, hcut]
  exact hmatches

/-- Compiling the text of a plan gives the plan, with the locations of the written markers. -/
theorem compile_writtenAll (q : Quoting) (h : c.Writable [] nodes) :
    c.compile (String.ofList (Node.writtenAll q nodes)) =
        .ok ⟨Node.placedAll q .start nodes⟩ ∧
      Node.unplacedAll (Node.placedAll q .start nodes) = Node.unplacedAll nodes :=
  ⟨compile_eq_ok_iff_plan.2 (plan_writtenAll q h), Node.unplacedAll_placedAll q .start nodes⟩

/-- A tag that renders its body once. -/
def transparent : Handler := ⟨true, Invocation.renderBody⟩

/-- Literal text and a tag whose body holds such a tag again and an expression, with the locations
of the three markers. -/
def nestedNodes (outer inner shown : Location) : List Node :=
  [.text "\x7d\x7d ",
   .tag ⟨"if", transparent, [.member (.literal (.int 3)) "b"],
      [("k", .item (.lookup "x") (.literal (.string "it's")))], outer⟩
    (some [.tag ⟨"if", transparent, [], [], inner⟩ (some []), .expression (.lookup "y") shown])]

/-- The text of these nodes. -/
def nestedSource : String :=
  "\x7d\x7d \x7b% if 3 . b k = x [ \"it's\" ] %\x7d{% if %}{% endif %}{{ y }}{% endif %}"

theorem compile_writtenAll_nestedNodes :
    (default.withTag "if" transparent).Writable [] (nestedNodes .start .start .start) ∧
      (default.withTag "if" transparent).compile nestedSource =
        .ok ⟨nestedNodes ⟨1, 4⟩ ⟨1, 35⟩ ⟨1, 54⟩⟩ := by
  have hif : Lexeme.IsName "if".toList := by decide
  have hstring : (Expr.literal (.string "it's")).Writable .block :=
    ⟨⟨'"', by decide, by decide⟩, by decide⟩
  have hnumber : (Expr.literal (.int 3)).Writable .block := show 0 ≤ (3 : Int64).toInt by decide
  have houter : (default.withTag "if" transparent).AcceptsCall
      ⟨"if", transparent, [.member (.literal (.int 3)) "b"],
        [("k", .item (.lookup "x") (.literal (.string "it's")))], .start⟩ := by
    refine ⟨hif, rfl, List.forall_mem_singleton.2 ⟨⟨hnumber, ?_⟩, by decide⟩,
      List.forall_mem_singleton.2 ⟨by decide, ⟨?_, hstring⟩, by decide⟩⟩
    · exact (by decide : Lexeme.IsName "b".toList)
    · exact (by decide : Lexeme.IsName "x".toList)
  have hinner : (default.withTag "if" transparent).AcceptsCall
      ⟨"if", transparent, [], [], .start⟩ :=
    ⟨hif, rfl, by simp, by simp⟩
  have hvariable : (default.withTag "if" transparent).Accepts .expression (.lookup "y") :=
    ⟨(by decide : Lexeme.IsName "y".toList), by decide⟩
  have hwritable : (default.withTag "if" transparent).Writable []
      (nestedNodes .start .start .start) :=
    .text (by decide) (by decide) (by simp)
      (.enclosing houter (by simp) rfl (by decide)
        (.enclosing hinner (by decide) rfl (by decide) .nil (.expression hvariable .nil)) .nil)
  have hsource : Node.writtenAll .preferDouble (nestedNodes .start .start .start) =
      nestedSource.toList := rfl
  have hcompile := (compile_writtenAll .preferDouble hwritable).1
  rw [hsource, String.ofList_toList] at hcompile
  exact ⟨hwritable, hcompile⟩

end Compiler

end TextTemplate
