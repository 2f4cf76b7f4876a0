import TextTemplate.Proofs.Plan.Descent
import TextTemplate.Proofs.Plan.RoundTrip
import TextTemplate.Proofs.Stream.Tokens

/-!
# Blocks and the stack of open tags

Whether the blocks of a template are in order can be told from their first two tokens, the
registered tags and a stack of the tags that are open. A block closes the tag on top of the stack if
it bears the name of its end, whether or not this name is registered. Otherwise its tag must be
registered, and it is pushed if it has a body. If everything else in the markers can be read, the
plan of the spans exists exactly if no block is refused and the stack is empty at the end, and the
error is that of the first block that is refused, or that of the tag on top of the stack.

The recursion that reads the plan has no stack: each of its calls knows the tag whose body it reads
and how many tags are open. A run with the open tags and the nodes before them is shown to decide by
the rules, block by block, and the recursion is such a run.

## Main definitions

* `OpenBlock`: a tag on the stack.
* `Compiler.Rules`: what is decided about one block.
* `Compiler.StackRun`: the decisions about the blocks among some spans.
* `Compiler.WellRead`: all else in a span can be read.

## Main results

* `Compiler.blocks_step`: a step decides about a block by the rules.
* `Compiler.blocks_run`: a run decides about all blocks.
* `Compiler.plan_iff_stackRun`: when spans have a plan, and which error there is if they have none.
* `Compiler.readNodes_iff_stackRun`: the same for the recursion.
-/

namespace TextTemplate

/-- A tag that is open: its name, and the location of its opening delimiter. -/
structure OpenBlock where
  name : String
  location : Location

/-- The error that a tag is never closed. -/
def OpenBlock.unclosed (top : OpenBlock) : Error :=
  .grammar (.unclosedTag top.name (endName top.name)) top.location

/-- An error that concerns a token of a span. -/
def Span.errorAt (span : Span) (cause : GrammarError) (t : Token) : Error :=
  .grammar cause (span.stream.locationOf t.start)

/-- The open tags of an assembly, the innermost one first. -/
def Assembly.blocks (a : Assembly) : List OpenBlock :=
  a.opened.map fun tag => ⟨tag.call.name, tag.call.location⟩

/-- A name ends the tag on top of the stack. -/
def EndsTop (opened : List OpenBlock) (name : String) : Prop :=
  ∃ top ∈ opened.head?, name = endName top.name

namespace Compiler

/-- What is decided about a block with some tags open, the innermost one first. The block is given
by its span, its first token and the token behind it, which may be the end marker. The decision is
the stack behind the block or the error by which it is refused. -/
inductive Rules (c : Compiler) (opened : List OpenBlock) (span : Span) (name next : Token) :
    Except Error (List OpenBlock) → Prop where
  /-- The tag on top of the stack is closed. -/
  | closes {top outer} (htop : opened = top :: outer) (hname : name.text = endName top.name)
      (hnext : next.isEnd = true) : Rules c opened span name next (.ok outer)
  /-- Something follows the name of the end. -/
  | continued (hends : EndsTop opened name.text) (hnext : next.isEnd = false) :
      Rules c opened span name next
        (.error (span.errorAt (.unexpected .endOfExpression next.describe) next))
  /-- A tag with a body is opened. -/
  | opens {handler} (hends : ¬ EndsTop opened name.text)
      (hhandler : c.registry.get? name.text = some handler) (hbody : handler.hasBody = true)
      (hdepth : opened.length < c.maxDepth) :
      Rules c opened span name next (.ok (⟨name.text, span.location⟩ :: opened))
  /-- Too many tags are open. -/
  | tooDeep {handler} (hends : ¬ EndsTop opened name.text)
      (hhandler : c.registry.get? name.text = some handler) (hbody : handler.hasBody = true)
      (hdepth : c.maxDepth ≤ opened.length) :
      Rules c opened span name next (.error (span.errorAt (.nestingTooDeep c.maxDepth) name))
  /-- A tag without a body. -/
  | single {handler} (hends : ¬ EndsTop opened name.text)
      (hhandler : c.registry.get? name.text = some handler) (hbody : handler.hasBody = false) :
      Rules c opened span name next (.ok opened)
  /-- The name is that of the end of a registered tag with a body. -/
  | strayEnd {base handler} (hends : ¬ EndsTop opened name.text)
      (hunknown : c.registry.get? name.text = none) (hbase : name.text = endName base)
      (hhandler : c.registry.get? base = some handler) (hbody : handler.hasBody = true) :
      Rules c opened span name next (.error (span.errorAt (.unexpectedEndTag name.text) name))
  /-- The name means nothing. -/
  | unknown (hends : ¬ EndsTop opened name.text) (hunknown : c.registry.get? name.text = none)
      (hbase : ∀ base handler, name.text = endName base → c.registry.get? base = some handler →
        handler.hasBody = false) :
      Rules c opened span name next (.error (span.errorAt (.unknownTag name.text) name))

/-- The blocks among some spans, decided about one after the other up to the first one that is
refused. The result is the stack at the end, or the error. -/
inductive StackRun (c : Compiler) :
    List OpenBlock → List Span → Except Error (List OpenBlock) → Prop where
  | nil {opened} : StackRun c opened [] (.ok opened)
  | skip {opened span spans r} (hkind : span.kind ≠ .marker .block)
      (hrest : StackRun c opened spans r) : StackRun c opened (span :: spans) r
  | pass {opened opened' span spans name next more r} (hkind : span.kind = .marker .block)
      (htokens : span.stream.tokens = name :: next :: more)
      (hrule : c.Rules opened span name next (.ok opened')) (hrest : StackRun c opened' spans r) :
      StackRun c opened (span :: spans) r
  | refuse {opened span spans name next more err} (hkind : span.kind = .marker .block)
      (htokens : span.stream.tokens = name :: next :: more)
      (hrule : c.Rules opened span name next (.error err)) :
      StackRun c opened (span :: spans) (.error err)

/-- An expression marker holds an expression, and a block has tokens up to its end, of which the
first one is a name; if the name is registered, arguments stand behind it. -/
structure WellRead (c : Compiler) (span : Span) : Prop where
  expression : span.kind = .marker .expression → ∃ e, c.HoldsExpression span e
  block : span.kind = .marker .block → ∃ name rest last,
    span.stream.tokens = name :: (rest ++ [last]) ∧ last.isEnd = true ∧ name.kind = .name ∧
      ((c.registry.get? name.text).isSome = true → ∃ header, c.HoldsHeader span header)

variable {c : Compiler} {a : Assembly} {opened : List OpenBlock} {span : Span} {spans : List Span}
  {name next : Token} {more : List Token} {r : Except Error (List OpenBlock)} {err : Error}

/-! ### The rules cover all blocks -/

theorem exists_rules (c : Compiler) (opened : List OpenBlock) (span : Span) (name next : Token) :
    ∃ r, c.Rules opened span name next r := by
  by_cases hends : EndsTop opened name.text
  · cases hnext : next.isEnd with
    | false => exact ⟨_, .continued hends hnext⟩
    | true =>
      obtain ⟨top, htop, hname⟩ := hends
      obtain ⟨outer, rfl⟩ := List.head?_eq_some_iff.1 htop
      exact ⟨_, .closes rfl hname hnext⟩
  · cases hhandler : c.registry.get? name.text with
    | some handler =>
      cases hbody : handler.hasBody with
      | false => exact ⟨_, .single hends hhandler hbody⟩
      | true =>
        rcases Nat.lt_or_ge opened.length c.maxDepth with hdepth | hdepth
        · exact ⟨_, .opens hends hhandler hbody hdepth⟩
        · exact ⟨_, .tooDeep hends hhandler hbody hdepth⟩
    | none =>
      by_cases hbase : ∃ base handler, name.text = endName base ∧
          c.registry.get? base = some handler ∧ handler.hasBody = true
      · obtain ⟨base, handler, hname, hget, hbody⟩ := hbase
        exact ⟨_, .strayEnd hends hhandler hname hget hbody⟩
      · refine ⟨_, .unknown hends hhandler fun base handler hname hget => ?_⟩
        rw [Bool.eq_false_iff]
        exact fun hbody => hbase ⟨base, handler, hname, hget, hbody⟩

theorem WellRead.exists_tokens (h : c.WellRead span) (hkind : span.kind = .marker .block) :
    ∃ name next more, span.stream.tokens = name :: next :: more := by
  obtain ⟨name, rest, last, htokens, -⟩ := h.block hkind
  cases rest with
  | nil => exact ⟨name, last, [], htokens⟩
  | cons next rest => exact ⟨name, next, rest ++ [last], htokens⟩

theorem exists_stackRun (h : ∀ span ∈ spans, c.WellRead span) (opened : List OpenBlock) :
    ∃ r, c.StackRun opened spans r := by
  induction spans generalizing opened with
  | nil => exact ⟨_, .nil⟩
  | cons span spans ih =>
    obtain ⟨hspan, hspans⟩ := List.forall_mem_cons.1 h
    by_cases hkind : span.kind = .marker .block
    · obtain ⟨name, next, more, htokens⟩ := hspan.exists_tokens hkind
      obtain ⟨r, hrule⟩ := exists_rules c opened span name next
      cases r with
      | error err => exact ⟨_, .refuse hkind htokens hrule⟩
      | ok opened' =>
        obtain ⟨r, hrest⟩ := ih hspans opened'
        exact ⟨r, .pass hkind htokens hrule hrest⟩
    · obtain ⟨r, hrest⟩ := ih hspans opened
      exact ⟨r, .skip hkind hrest⟩

/-! ### The open tags of an assembly -/

theorem endsTop_blocks_iff {name : String} :
    EndsTop a.blocks name ↔ a.isEndedBy name = true := by
  unfold EndsTop Assembly.blocks Assembly.isEndedBy
  split <;> simp_all

theorem length_blocks (a : Assembly) : a.blocks.length = a.opened.length :=
  List.length_map _

theorem blocks_leave (a : Assembly) : a.leave.blocks = a.blocks.tail := by
  unfold Assembly.leave Assembly.blocks
  split <;> simp_all

theorem endsTag_iff {name : String} : c.endsTag name = true ↔
    ∃ base handler, name = endName base ∧ c.registry.get? base = some handler ∧
      handler.hasBody = true := by
  constructor
  · intro h
    unfold endsTag at h
    split at h
    · next base hname =>
      split at h
      · next handler hhandler =>
        refine ⟨String.ofList base, handler, String.toList_inj.1 ?_, hhandler, h⟩
        rw [hname, toList_endName, String.toList_ofList]
      · cases h
    · cases h
  · rintro ⟨base, handler, rfl, hhandler, hbody⟩
    rw [endsTag, toList_endName]
    simp only [String.ofList_toList, hhandler, hbody]

/-! ### One block -/

section

variable {s₁ s₂ : Stream} {handler : Handler} (hkind : span.kind = .marker .block)
  (hnext : span.stream.next = .ok name s₁) (hname : name.kind = .name)

include hkind hnext hname

/-- Reading a block whose name has been read. -/
theorem step_block_eq {b : Scan Assembly}
    (hb : b = if a.isEndedBy name.text then (Stream.expectEnd >>= fun _ => pure a.leave)
      else c.openBlock a span.location name) :
    c.step a span = match b s₁ with
      | .ok a' _ => .ok a'
      | .error err _ => .error err := by
  have hparse : TagHeader.parseName span.stream = .ok name s₁ :=
    Stream.parseName_eq_ok_iff.2 ⟨hnext, hname⟩
  have hblock : c.block a span.location span.stream = b s₁ := by
    rw [hb]
    simp only [block, bind, EStateM.bind, hparse]
  simp only [step, hkind, readSpan, ← hblock, Span.stream]
  cases c.block a span.location (Stream.ofContent span.content span.contentLocation) <;> rfl

/-- A block with the name of the end of the innermost open tag. -/
theorem step_of_endsTop (hends : EndsTop a.blocks name.text) (hnext₁ : s₁.next = .ok next s₂) :
    c.step a span = if next.isEnd then .ok a.leave
      else .error (span.errorAt (.unexpected .endOfExpression next.describe) next) := by
  have hloc : s₂.locationOf next.start = span.stream.locationOf next.start := by
    rw [Stream.locationOf_of_next hnext₁,
      Stream.locationOf_of_next hnext]
  rw [step_block_eq hkind hnext hname (if_pos (endsTop_blocks_iff.1 hends)).symm, Span.errorAt,
    ← hloc]
  simp only [Stream.expectEnd, bind, EStateM.bind, hnext₁]
  cases next.isEnd <;> rfl

theorem step_of_unregistered (hends : ¬ EndsTop a.blocks name.text)
    (hunknown : c.registry.get? name.text = none) :
    c.step a span = .error (span.errorAt (c.unregistered name.text) name) := by
  rw [step_block_eq hkind hnext hname (if_neg (mt endsTop_blocks_iff.2 hends)).symm, Span.errorAt,
    ← Stream.locationOf_of_next hnext, openBlock, hunknown]
  rfl

theorem step_of_tooDeep (hends : ¬ EndsTop a.blocks name.text)
    (hhandler : c.registry.get? name.text = some handler) (hbody : handler.hasBody = true)
    (hdepth : c.maxDepth ≤ a.blocks.length) :
    c.step a span = .error (span.errorAt (.nestingTooDeep c.maxDepth) name) := by
  rw [length_blocks] at hdepth
  rw [step_block_eq hkind hnext hname (if_neg (mt endsTop_blocks_iff.2 hends)).symm, Span.errorAt,
    ← Stream.locationOf_of_next hnext, openBlock, hhandler]
  simp only [hbody, hdepth, and_self, if_true]
  rfl

end

theorem opensTag {header : TagHeader} {handler : Handler} (hkind : span.kind = .marker .block)
    (hheader : c.HoldsHeader span header) (hends : ¬ EndsTop a.blocks header.name)
    (hhandler : c.registry.get? header.name = some handler)
    (hdepth : handler.hasBody = true → a.blocks.length < c.maxDepth) :
    c.OpensTag a span header handler := by
  refine ⟨hkind, hheader, fun x hx hname => hends ?_, hhandler, length_blocks a ▸ hdepth⟩
  exact endsTop_blocks_iff.2 (Assembly.isEndedBy_iff.2 ⟨x, hx, hname⟩)

/-- A step decides about a block by the rules. -/
theorem blocks_step (hread : c.WellRead span) (hkind : span.kind = .marker .block)
    (htokens : span.stream.tokens = name :: next :: more)
    (h : c.Rules a.blocks span name next r) : Assembly.blocks <$> c.step a span = r := by
  obtain ⟨name', rest, last, htokens', -, hname, hargs⟩ := hread.block hkind
  obtain rfl : name = name' := (List.cons.inj (htokens.symm.trans htokens')).1
  obtain ⟨s₁, hnext, htokens₁⟩ := Stream.exists_next_of_tokens htokens
  obtain ⟨s₂, hnext₁, -⟩ := Stream.exists_next_of_tokens (htokens₁ (by simp [Token.isEnd, hname]))
  have hheader {handler : Handler} (hhandler : c.registry.get? name.text = some handler) :
      ∃ header, c.HoldsHeader span header ∧ header.name = name.text := by
    obtain ⟨header, hheader⟩ := hargs (by rw [hhandler]; rfl)
    obtain ⟨t, s₁', s', hnext', -, htext, -⟩ := holdsHeader_iff.1 hheader
    rw [hnext] at hnext'
    cases hnext'
    exact ⟨header, hheader, htext.symm⟩
  cases h with
  | @closes top outer htop hends hend =>
    have htop' : EndsTop a.blocks name.text := ⟨top, by rw [htop]; rfl, hends⟩
    rw [step_of_endsTop hkind hnext hname htop' hnext₁, if_pos hend]
    exact congrArg Except.ok (by rw [blocks_leave, htop, List.tail_cons])
  | continued hends hend =>
    rw [step_of_endsTop hkind hnext hname hends hnext₁, if_neg (by simp [hend])]
    rfl
  | opens hends hhandler hbody hdepth =>
    obtain ⟨header, hheader, htext⟩ := hheader hhandler
    rw [← htext] at hends hhandler ⊢
    rw [step_eq_ok_iff.2 (.enter (opensTag hkind hheader hends hhandler fun _ => hdepth) hbody)]
    rfl
  | tooDeep hends hhandler hbody hdepth =>
    rw [step_of_tooDeep hkind hnext hname hends hhandler hbody hdepth]
    rfl
  | single hends hhandler hbody =>
    obtain ⟨header, hheader, htext⟩ := hheader hhandler
    rw [← htext] at hends hhandler
    have hopens := opensTag hkind hheader hends hhandler (by simp [hbody])
    rw [step_eq_ok_iff.2 (.single hopens hbody)]
    rfl
  | strayEnd hends hunknown hbase hhandler hbody =>
    have hended : c.endsTag name.text = true := endsTag_iff.2 ⟨_, _, hbase, hhandler, hbody⟩
    rw [step_of_unregistered hkind hnext hname hends hunknown, unregistered, if_pos hended]
    rfl
  | unknown hends hunknown hbase =>
    have hended : ¬ c.endsTag name.text = true := by
      rw [endsTag_iff]
      rintro ⟨base, handler, heq, hhandler, hbody⟩
      simp [hbase base handler heq hhandler] at hbody
    rw [step_of_unregistered hkind hnext hname hends hunknown, unregistered, if_neg hended]
    rfl

/-- A span that is no block leaves the open tags alone. -/
theorem blocks_step_of_ne (hread : c.WellRead span) (hkind : span.kind ≠ .marker .block) :
    Assembly.blocks <$> c.step a span = .ok a.blocks := by
  cases h : span.kind with
  | text =>
    rw [step_eq_ok_iff.2 (.text h)]
    rfl
  | marker m =>
    cases m with
    | comment =>
      rw [step_eq_ok_iff.2 (.comment h)]
      rfl
    | expression =>
      obtain ⟨e, he⟩ := hread.expression h
      rw [step_eq_ok_iff.2 (.expression h he)]
      rfl
    | block => exact absurd h hkind

/-! ### All blocks -/

/-- A run decides about all blocks. -/
theorem blocks_run (hread : ∀ span ∈ spans, c.WellRead span) (h : c.StackRun opened spans r)
    (ha : a.blocks = opened) : Assembly.blocks <$> c.run a spans = r := by
  induction h generalizing a with
  | nil => exact congrArg Except.ok ha
  | skip hkind _ ih =>
    obtain ⟨hspan, hspans⟩ := List.forall_mem_cons.1 hread
    obtain ⟨b, hstep, hb⟩ := map_eq_ok_iff.1 (blocks_step_of_ne hspan hkind)
    rw [run_cons_of_ok hstep]
    exact ih hspans (hb.trans ha)
  | pass hkind htokens hrule _ ih =>
    obtain ⟨hspan, hspans⟩ := List.forall_mem_cons.1 hread
    rw [← ha] at hrule
    obtain ⟨b, hstep, hb⟩ := map_eq_ok_iff.1 (blocks_step hspan hkind htokens hrule)
    rw [run_cons_of_ok hstep]
    exact ih hspans hb
  | refuse hkind htokens hrule =>
    obtain ⟨hspan, -⟩ := List.forall_mem_cons.1 hread
    rw [← ha] at hrule
    rw [run_cons_of_error (map_eq_error_iff.1 (blocks_step hspan hkind htokens hrule))]
    rfl

theorem plan_of_stackRun_empty (hread : ∀ span ∈ spans, c.WellRead span)
    (h : c.StackRun [] spans (.ok [])) : ∃ nodes, c.plan spans = .ok nodes := by
  obtain ⟨a, hrun, ha⟩ := map_eq_ok_iff.1 (blocks_run (a := .empty) hread h rfl)
  have hopened : a.opened = [] := List.map_eq_nil_iff.1 ha
  have hfinish : a.finish = .ok a.nodes.reverse := Assembly.finish_eq_ok_iff.2 ⟨hopened, rfl⟩
  rw [run] at hrun
  exact ⟨_, by rw [plan, hrun]; exact hfinish⟩

theorem plan_of_stackRun_error (hread : ∀ span ∈ spans, c.WellRead span)
    (h : c.StackRun [] spans (.error err)) : c.plan spans = .error err := by
  have hrun := map_eq_error_iff.1 (blocks_run (a := .empty) hread h rfl)
  rw [run] at hrun
  rw [plan, hrun]
  rfl

/-- The tag on top of the stack is reported if it is not closed. -/
theorem plan_of_stackRun_cons (hread : ∀ span ∈ spans, c.WellRead span) {top : OpenBlock}
    (h : c.StackRun [] spans (.ok (top :: opened))) : c.plan spans = .error top.unclosed := by
  obtain ⟨a, hrun, ha⟩ := map_eq_ok_iff.1 (blocks_run (a := .empty) hread h rfl)
  obtain ⟨tag, outer, hopened, rfl, -⟩ := List.map_eq_cons_iff.1 ha
  have hfinish : a.finish = .error (OpenBlock.unclosed ⟨tag.call.name, tag.call.location⟩) := by
    rw [Assembly.finish, hopened]
    rfl
  rw [run] at hrun
  rw [plan, hrun]
  exact hfinish

/-- If all else can be read, spans have a plan exactly if no block is refused and all tags are
closed in the end, and otherwise the error is that of the first block that is refused or that of the
innermost open tag. -/
theorem plan_iff_stackRun (c : Compiler) (spans : List Span)
    (hread : ∀ span ∈ spans, c.WellRead span) :
    ((∃ nodes, c.plan spans = .ok nodes) ↔ c.StackRun [] spans (.ok [])) ∧
      ∀ err, c.plan spans = .error err ↔ c.StackRun [] spans (.error err) ∨
        ∃ top outer, c.StackRun [] spans (.ok (top :: outer)) ∧ err = top.unclosed := by
  obtain ⟨r, hr⟩ := exists_stackRun hread []
  refine ⟨⟨?_, plan_of_stackRun_empty hread⟩, fun err => ⟨fun hplan => ?_, ?_⟩⟩
  · rintro ⟨nodes, hplan⟩
    match r, hr with
    | .ok [], hr => exact hr
    | .ok (top :: outer), hr =>
      rw [plan_of_stackRun_cons hread hr] at hplan
      cases hplan
    | .error err, hr =>
      rw [plan_of_stackRun_error hread hr] at hplan
      cases hplan
  · match r, hr with
    | .ok [], hr =>
      obtain ⟨nodes, hok⟩ := plan_of_stackRun_empty hread hr
      rw [hok] at hplan
      cases hplan
    | .ok (top :: outer), hr =>
      rw [plan_of_stackRun_cons hread hr] at hplan
      cases hplan
      exact Or.inr ⟨top, outer, hr, rfl⟩
    | .error err, hr =>
      rw [plan_of_stackRun_error hread hr] at hplan
      cases hplan
      exact Or.inl hr
  · rintro (h | ⟨top, outer, h, rfl⟩)
    · exact plan_of_stackRun_error hread h
    · exact plan_of_stackRun_cons hread h

/-- If all else can be read, the recursion that is started with no tag open succeeds exactly if no
block is refused and all tags are closed in the end. Otherwise it fails with the error of the first
block that is refused or with that of the innermost open tag. What it reads is the plan. -/
theorem readNodes_iff_stackRun (c : Compiler) (spans : List Span)
    (hread : ∀ span ∈ spans, c.WellRead span) :
    ((∃ p, c.readNodes none [] spans = .ok p) ↔ c.StackRun [] spans (.ok [])) ∧
      (∀ err, c.readNodes none [] spans = .error err ↔ c.StackRun [] spans (.error err) ∨
        ∃ top outer, c.StackRun [] spans (.ok (top :: outer)) ∧ err = top.unclosed) ∧
      c.plan spans = Portion.nodes <$> c.readNodes none [] spans := by
  have hplan := plan_eq_readNodes c spans
  obtain ⟨hok, herror⟩ := plan_iff_stackRun c spans hread
  rw [hplan] at hok herror
  refine ⟨?_, fun err => ?_, hplan⟩
  · simp only [← hok, map_eq_ok_iff]
    exact ⟨fun ⟨p, hp⟩ => ⟨p.nodes, p, hp, rfl⟩, fun ⟨_, p, hp, _⟩ => ⟨p, hp⟩⟩
  · rw [← herror, map_eq_error_iff]

/-- A block that holds a name only has two tokens, and it can be read. -/
theorem wellRead_spanOf (c : Compiler) {name : String} (h : Lexeme.IsName name.toList)
    (loc : Location) :
    c.WellRead (Marker.block.spanOf [.ofName name] loc) ∧
      ∃ t last, (Marker.block.spanOf [.ofName name] loc).stream.tokens = [t, last] ∧
        t.text = name ∧ last.isEnd = true := by
  have hfits : ∀ w ∈ [Word.ofName name], w.Fits .block :=
    List.forall_mem_singleton.2 (Word.fits_ofName h)
  obtain ⟨ts, hts, hs⟩ := Marker.delivers_spanOf hfits loc
  obtain ⟨t, rfl, ht⟩ := List.map_eq_singleton_iff.1 hts
  obtain ⟨hkind, htext⟩ := Prod.mk.inj ht
  obtain ⟨last, htokens, hlast⟩ := (Stream.delivers_iff_tokens rfl).1 hs
  have hblock : (Marker.block.spanOf [.ofName name] loc).kind ≠ .marker .expression := nofun
  refine ⟨⟨fun h => absurd h hblock, fun _ => ⟨t, [], last, htokens, hlast, hkind, ?_⟩⟩,
    t, last, htokens, htext, hlast⟩
  intro hregistered
  obtain ⟨handler, hhandler⟩ := Option.isSome_iff_exists.1 hregistered
  have hcall : c.AcceptsCall ⟨name, handler, [], [], loc⟩ :=
    ⟨h, htext ▸ hhandler, by simp, by simp⟩
  exact ⟨_, holdsHeader_spanOf .preferDouble hcall loc⟩

/-- A name that is registered closes a tag nevertheless if it is that of its end, and only then. -/
theorem readNodes_iff_stackRun_registered_end :
    let c := (default.withTag "if" transparent).withTag "endif" ⟨false, fun _ => pure ()⟩
    let spans : List Span := [⟨.marker .block, " if ", ⟨1, 1⟩⟩, ⟨.marker .block, " endif ", ⟨1, 9⟩⟩,
      ⟨.marker .block, " endif ", ⟨1, 20⟩⟩]
    (∀ span ∈ spans, c.WellRead span) ∧ ∃ p, c.readNodes none [] spans = .ok p := by
  intro c spans
  obtain ⟨hread₁, t₁, last₁, htokens₁, htext₁, -⟩ :=
    wellRead_spanOf c (by decide : Lexeme.IsName "if".toList) ⟨1, 1⟩
  obtain ⟨hread₂, t₂, last₂, htokens₂, htext₂, hlast₂⟩ :=
    wellRead_spanOf c (by decide : Lexeme.IsName "endif".toList) ⟨1, 9⟩
  obtain ⟨hread₃, t₃, last₃, htokens₃, htext₃, -⟩ :=
    wellRead_spanOf c (by decide : Lexeme.IsName "endif".toList) ⟨1, 20⟩
  have hread : ∀ span ∈ spans, c.WellRead span := by
    refine List.forall_mem_cons.2 ⟨hread₁, List.forall_mem_cons.2 ⟨hread₂, ?_⟩⟩
    exact List.forall_mem_singleton.2 hread₃
  have hempty (name : String) : ¬ EndsTop [] name := by simp [EndsTop]
  have hif : c.registry.get? t₁.text = some transparent := by
    rw [htext₁]
    rfl
  have hendif : c.registry.get? t₃.text = some ⟨false, fun _ => pure ()⟩ := by
    rw [htext₃]
    rfl
  have hend : t₂.text = endName t₁.text := by
    rw [htext₁, htext₂]
    rfl
  refine ⟨hread, (readNodes_iff_stackRun c spans hread).1.2 ?_⟩
  exact .pass rfl htokens₁ (.opens (hempty _) hif rfl (by decide))
    (.pass rfl htokens₂ (.closes rfl hend hlast₂)
      (.pass rfl htokens₃ (.single (hempty _) hendif rfl) .nil))

end Compiler

end TextTemplate
