import TextTemplate.Proofs.Plan.Matching

/-!
# Plans by recursive descent

The nodes of a template can be read without a stack. A reader takes spans from the front of a list
until it comes to the end of the tag whose body it reads, or to the end of the template if it reads
no body. Where a tag with a body is opened, it has the body read by a call of its own and goes on
with the spans that the call has left over. Each call knows only the tag whose body it reads, and
how many tags are open with it.

This comes to the same as one run over all spans with a stack: the calls under way are the open tags
of the stack, what a call has read so far stands between the tags, and the depth that a call knows
is the height of the stack.

## Main definitions

* `EnclosingTag`: what a call knows about the tag whose body it reads.
* `Compiler.role`: what a span means to a call.
* `Compiler.Portion`: the nodes that a call reads, and the spans that it leaves over.
* `Compiler.readNodes`: the recursion.
* `Compiler.resume`: how the calls under way go on when one of them comes to its end.

## Main results

* `Compiler.step_eq_role`: a step of the run does what the span means to the innermost call.
* `Compiler.run_finish_eq`: a run is the innermost call and then those around it.
* `Compiler.plan_eq_readNodes`: the recursion reads the plan of a template.
-/

namespace TextTemplate

/-- A tag whose body is read: its name, the location of its opening delimiter, and the number of
tags that are open, itself among them. -/
structure EnclosingTag where
  name : String
  location : Location
  depth : Nat

namespace EnclosingTag

variable (enclosing : Option EnclosingTag)

/-- The number of tags that are open. -/
def openTags : Nat :=
  match enclosing with
  | none => 0
  | some tag => tag.depth

/-- Whether a block of this name ends the tag. -/
def isEndedBy (name : String) : Bool :=
  match enclosing with
  | none => false
  | some tag => name = endName tag.name

/-- The error that the tag is never closed. -/
def unclosed (tag : EnclosingTag) : Error :=
  .grammar (.unclosedTag tag.name (endName tag.name)) tag.location

/-- The tag that a call opens. -/
def behind (call : TagCall) : EnclosingTag :=
  ⟨call.name, call.location, openTags enclosing + 1⟩

end EnclosingTag

namespace Compiler

/-- What a span means to the list of nodes that is read. -/
inductive Role where
  /-- It adds nothing. -/
  | nothing
  /-- It is a node. -/
  | node (node : Node)
  /-- It opens a tag whose body follows. -/
  | opens (call : TagCall)
  /-- It ends the tag whose body is read. -/
  | ends

variable (c : Compiler) {spans : List Span}

/-- Reads what a block means. -/
def blockRole (enclosing : Option EnclosingTag) (location : Location) : Scan Role := do
  let name ← TagHeader.parseName
  if EnclosingTag.isEndedBy enclosing name.text then
    Stream.expectEnd
    return .ends
  else
    match c.registry.get? name.text with
    | none => Stream.fail (c.unregistered name.text) name
    | some handler =>
      if handler.hasBody ∧ c.maxDepth < EnclosingTag.openTags enclosing + 1 then
        Stream.fail (.nestingTooDeep c.maxDepth) name
      else do
        let header ← TagHeader.parseArguments c.maxDepth name.text
        let call : TagCall := ⟨header.name, handler, header.args, header.kwargs, location⟩
        return if handler.hasBody then .opens call else .node (.tag call none)

/-- What a span means. -/
def role (enclosing : Option EnclosingTag) (span : Span) : Except Error Role :=
  match span.kind with
  | .text => .ok (.node (.text span.content))
  | .marker .comment => .ok .nothing
  | .marker .expression => do
    return .node (.expression (← readSpan c.wholeExpression span) span.location)
  | .marker .block => readSpan (c.blockRole enclosing span.location) span

/-- Nodes that are read from the front of some spans, and the spans that are left over. -/
structure Portion (spans : List Span) where
  nodes : List Node
  rest : List Span
  length_rest_le : rest.length ≤ spans.length

/-- What is read behind the front of some spans is read from them. -/
def Portion.within {spans' : List Span} (p : Portion spans)
    (h : spans.length ≤ spans'.length) : Portion spans' :=
  ⟨p.nodes, p.rest, Nat.le_trans p.length_rest_le h⟩

/-- Reads the nodes up to the end of the enclosing tag, or up to the end of the spans if there is
none, behind those that have been read already, the last one first. -/
def readNodes (enclosing : Option EnclosingTag) (nodes : List Node) :
    (spans : List Span) → Except Error (Portion spans)
  | [] =>
    match enclosing with
    | none => .ok ⟨nodes.reverse, [], Nat.le_refl _⟩
    | some tag => .error tag.unclosed
  | span :: spans => do
    match ← c.role enclosing span with
    | .nothing => return (← readNodes enclosing nodes spans).within (Nat.le_succ _)
    | .node node => return (← readNodes enclosing (node :: nodes) spans).within (Nat.le_succ _)
    | .ends => return ⟨nodes.reverse, spans, Nat.le_succ _⟩
    | .opens call =>
      let body ← readNodes (some (EnclosingTag.behind enclosing call)) [] spans
      let others ← readNodes enclosing (.tag call (some body.nodes) :: nodes) body.rest
      return others.within (Nat.le_succ_of_le body.length_rest_le)
termination_by spans => spans.length
decreasing_by
  · exact Nat.lt_succ_self _
  · exact Nat.lt_succ_self _
  · exact Nat.lt_succ_self _
  · exact Nat.lt_succ_of_le body.length_rest_le

end Compiler

/-! ### The calls under way are the open tags -/

namespace Assembly

/-- The innermost open tag, as the call that reads its body knows it. -/
def enclosing (a : Assembly) : Option EnclosingTag :=
  match a.opened with
  | [] => none
  | tag :: outer => some ⟨tag.call.name, tag.call.location, outer.length + 1⟩

/-- What a span does. -/
def take (a : Assembly) : Compiler.Role → Assembly
  | .nothing => a
  | .node node => a.add node
  | .opens call => a.enter call
  | .ends => a.leave

theorem isEndedBy_enclosing (a : Assembly) (name : String) :
    EnclosingTag.isEndedBy a.enclosing name = a.isEndedBy name := by
  unfold EnclosingTag.isEndedBy enclosing isEndedBy
  cases a.opened <;> rfl

theorem openTags_enclosing (a : Assembly) :
    EnclosingTag.openTags a.enclosing = a.opened.length := by
  unfold EnclosingTag.openTags enclosing
  cases a.opened <;> rfl

theorem enclosing_enter (a : Assembly) (call : TagCall) :
    (a.enter call).enclosing = some (EnclosingTag.behind a.enclosing call) := by
  rw [EnclosingTag.behind, openTags_enclosing]
  rfl

end Assembly

namespace Compiler

variable {c : Compiler} {a : Assembly} {span : Span} {spans : List Span} {nodes : List Node}

/-- A block is read as it is by the innermost call. -/
theorem block_eq_role (a : Assembly) (location : Location) :
    c.block a location = a.take <$> c.blockRole a.enclosing location := by
  rw [block, blockRole, map_bind]
  refine bind_congr fun name => ?_
  rw [a.isEndedBy_enclosing, a.openTags_enclosing]
  split
  · rw [map_bind]
    exact bind_congr fun _ => (map_pure _ _).symm
  · rw [openBlock]
    cases c.registry.get? name.text with
    | none => rfl
    | some handler =>
      simp only [Nat.lt_succ_iff]
      split
      · rfl
      · rw [map_bind]
        refine bind_congr fun header => ?_
        rw [map_pure]
        cases handler.hasBody <;> rfl

/-- A step does what the span means to the innermost call. -/
theorem step_eq_role (a : Assembly) (span : Span) :
    c.step a span = a.take <$> c.role a.enclosing span := by
  rw [step, role]
  cases span.kind with
  | text => rfl
  | marker m =>
    cases m with
    | comment => rfl
    | expression =>
      simp only [map_bind, map_pure]
      rfl
    | block => simp only [block_eq_role, readSpan_map]

/-- Nothing ends where no tag is open. -/
theorem role_none_ne_ends (span : Span) : c.role none span ≠ .ok .ends := by
  rw [role]
  cases span.kind with
  | text => exact nofun
  | marker m =>
    cases m with
    | comment => exact nofun
    | expression =>
      intro h
      obtain ⟨e, -, he⟩ := bind_eq_ok_iff.1 h
      cases he
    | block =>
      intro h
      obtain ⟨s, hs⟩ := readSpan_eq_ok_iff.1 h
      obtain ⟨name, s₁, -, hname⟩ := Scan.bind_eq_ok_iff.1 hs
      rw [EnclosingTag.isEndedBy, if_neg Bool.false_ne_true] at hname
      cases hhandler : c.registry.get? name.text with
      | none =>
        rw [hhandler] at hname
        cases hname
      | some handler =>
        simp only [hhandler] at hname
        split at hname
        · cases hname
        · obtain ⟨header, s₂, -, hrole⟩ := Scan.bind_eq_ok_iff.1 hname
          have hrole := (Scan.pure_eq_ok_iff.1 hrole).1
          cases hbody : handler.hasBody <;> simp [hbody] at hrole

/-- The calls around one that has read some nodes go on with the spans that it leaves over: the
nodes are the body of the tag that it was called for. -/
def resume (c : Compiler) (opened : List OpenTag) (p : Portion spans) :
    Except Error (List Node) :=
  match opened with
  | [] => .ok p.nodes
  | tag :: outer =>
    c.run ⟨outer, .tag tag.call (some p.nodes) :: tag.before⟩ p.rest >>= Assembly.finish

theorem readNodes_none_nil (nodes : List Node) :
    c.readNodes none nodes [] = .ok ⟨nodes.reverse, [], Nat.le_refl _⟩ := by
  rw [readNodes]

theorem readNodes_some_nil (tag : EnclosingTag) (nodes : List Node) :
    c.readNodes (some tag) nodes [] = .error tag.unclosed := by
  rw [readNodes]

theorem readNodes_cons (enclosing : Option EnclosingTag) (nodes : List Node) (span : Span)
    (spans : List Span) :
    c.readNodes enclosing nodes (span :: spans) = do
      match ← c.role enclosing span with
      | .nothing => return (← c.readNodes enclosing nodes spans).within (Nat.le_succ _)
      | .node node =>
        return (← c.readNodes enclosing (node :: nodes) spans).within (Nat.le_succ _)
      | .ends => return ⟨nodes.reverse, spans, Nat.le_succ _⟩
      | .opens call =>
        let body ← c.readNodes (some (EnclosingTag.behind enclosing call)) [] spans
        let others ← c.readNodes enclosing (.tag call (some body.nodes) :: nodes) body.rest
        return others.within (Nat.le_succ_of_le body.length_rest_le) := by
  rw [readNodes]

theorem resume_within {spans' : List Span} (x : Except Error (Portion spans))
    (h : spans.length ≤ spans'.length) (opened : List OpenTag) :
    (do return (← x).within h) >>= c.resume opened = x >>= c.resume opened := by
  cases x <;> cases opened <;> rfl

/-- A run is the innermost call under way, and then the calls around it. -/
theorem run_finish_eq (c : Compiler) (a : Assembly) (spans : List Span) :
    c.run a spans >>= Assembly.finish =
      c.readNodes a.enclosing a.nodes spans >>= c.resume a.opened := by
  induction hlength : spans.length using Nat.strongRecOn generalizing a spans with
  | ind n ih =>
    subst hlength
    cases spans with
    | nil =>
      obtain ⟨opened, nodes⟩ := a
      cases opened with
      | nil =>
        rw [Assembly.enclosing, readNodes_none_nil]
        rfl
      | cons tag outer =>
        rw [Assembly.enclosing, readNodes_some_nil]
        rfl
    | cons span spans =>
      have ih' (a : Assembly) (rest : List Span) (hrest : rest.length ≤ spans.length) :=
        ih rest.length (Nat.lt_succ_of_le hrest) a rest rfl
      have hstep := c.step_eq_role a span
      rw [readNodes_cons]
      cases hrole : c.role a.enclosing span with
      | error err =>
        rw [hrole] at hstep
        rw [run_cons_of_error hstep]
        rfl
      | ok role =>
        rw [hrole] at hstep
        rw [run_cons_of_ok hstep]
        cases role with
        | nothing => exact (ih' a spans (Nat.le_refl _)).trans (resume_within _ _ _).symm
        | node node =>
          exact (ih' (a.add node) spans (Nat.le_refl _)).trans (resume_within _ _ _).symm
        | ends =>
          cases hopened : a.opened with
          | nil =>
            rw [Assembly.enclosing, hopened] at hrole
            exact absurd hrole (role_none_ne_ends span)
          | cons tag outer =>
            rw [Assembly.take, Assembly.leave, hopened]
            rfl
        | opens call =>
          -- the body is read by a call of its own, behind which the one at hand goes on
          refine (ih' (a.enter call) spans (Nat.le_refl _)).trans ?_
          rw [Assembly.enclosing_enter]
          change c.readNodes _ [] spans >>= _ = c.readNodes _ [] spans >>= _ >>= _
          cases c.readNodes (some (EnclosingTag.behind a.enclosing call)) [] spans with
          | error err => rfl
          | ok body =>
            have hbehind := ih' (a.add (.tag call (some body.nodes))) body.rest body.length_rest_le
            exact hbehind.trans (resume_within _ _ _).symm

/-- The recursion reads the plan of a template. -/
theorem plan_eq_readNodes (c : Compiler) (spans : List Span) :
    c.plan spans = Portion.nodes <$> c.readNodes none [] spans := by
  rw [plan_eq_run, run_finish_eq, Assembly.enclosing, Assembly.empty]
  cases c.readNodes none [] spans <;> rfl

end Compiler

end TextTemplate
