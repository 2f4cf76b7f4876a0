import TextTemplate.Proofs.Stream.Delivery
import TextTemplate.Template

/-!
# Plans and the spans that they match

A compiler accepts the templates whose blocks are well bracketed, and their plan is the tree of the
brackets. This is stated by a relation between lists of spans and plans that follows the tree: a tag
with a body matches the span of its opening, the spans of its body and the span of its end. A run
over the spans knows nothing of the tree: it takes one span after the other and has a list of the
tags that are open.

A run behind some open tags ends in one of three ways. The spans match some nodes, which are added
behind the innermost open tag; or one of them ends that tag, and those before it match the nodes of
its body; or they open a tag that is never ended.

## Main definitions

* `Compiler.HoldsExpression`, `Compiler.HoldsHeader`, `Span.HoldsOnly`: what a marker holds.
* `Compiler.Matches`: the relation between spans and plans.
* `Compiler.Step`: what the compiler does with one span.
* `Compiler.Outcome`: the three ways in which a run ends.

## Main results

* `Compiler.step_eq_ok_iff`: one step, described.
* `Compiler.run_of_matches`, `Compiler.outcome_of_run`: matching spans run to the end, and how a run
  ends in general.
* `Compiler.compile_eq_ok_iff`: compiling succeeds exactly with the plan that matches.
-/

namespace TextTemplate

theorem toList_endName (base : String) :
    (endName base).toList = 'e' :: 'n' :: 'd' :: base.toList := by
  rw [endName, String.toList_append]
  rfl

/-- The content of a span has a single token, the given name. -/
def Span.HoldsOnly (span : Span) (name : String) : Prop :=
  ∃ t s, span.stream.next = .ok t s ∧ t.kind = .name ∧ t.text = name ∧ s.AtEnd

namespace Assembly

/-- The names of the open tags, the innermost one first. -/
def names (a : Assembly) : List String :=
  a.opened.map (·.call.name)

/-- Adds nodes in order. -/
def addAll (a : Assembly) (nodes : List Node) : Assembly :=
  { a with nodes := nodes.reverse ++ a.nodes }

@[simp] theorem addAll_nil (a : Assembly) : a.addAll [] = a := rfl

@[simp] theorem names_add (a : Assembly) (node : Node) : (a.add node).names = a.names := rfl

@[simp] theorem names_addAll (a : Assembly) (nodes : List Node) :
    (a.addAll nodes).names = a.names := rfl

@[simp] theorem opened_addAll (a : Assembly) (nodes : List Node) :
    (a.addAll nodes).opened = a.opened := rfl

@[simp] theorem names_enter (a : Assembly) (call : TagCall) :
    (a.enter call).names = call.name :: a.names := rfl

@[simp] theorem length_names (a : Assembly) : a.names.length = a.opened.length :=
  List.length_map _

theorem addAll_add (a : Assembly) (node : Node) (nodes : List Node) :
    (a.add node).addAll nodes = a.addAll (node :: nodes) := by
  simp [addAll, add]

theorem reverse_nodes_addAll_empty (nodes : List Node) :
    (empty.addAll nodes).nodes.reverse = nodes := by
  simp [addAll, empty]

/-- Closing a tag whose body has been read adds the tag with its body. -/
theorem leave_addAll_enter (a : Assembly) (call : TagCall) (body : List Node) :
    ((a.enter call).addAll body).leave = a.add (.tag call (some body)) := by
  simp [addAll, enter, leave, add]

theorem isEndedBy_iff {a : Assembly} {name : String} :
    a.isEndedBy name = true ↔ ∃ x ∈ a.names.head?, name = endName x := by
  unfold isEndedBy names
  split <;> simp_all

theorem finish_eq_ok_iff {a : Assembly} {nodes : List Node} :
    a.finish = .ok nodes ↔ a.opened = [] ∧ a.nodes.reverse = nodes := by
  unfold finish
  split <;> simp_all

end Assembly

namespace Compiler

/-! ### Composite results -/

section

variable {α β : Type} {x : Except Error α} {err : Error}

theorem bind_eq_ok_iff {f : α → Except Error β} {b : β} :
    (x >>= f) = .ok b ↔ ∃ a, x = .ok a ∧ f a = .ok b := by
  cases x <;> simp [bind, Except.bind]

theorem bind_eq_error_iff {f : α → Except Error β} :
    (x >>= f) = .error err ↔ x = .error err ∨ ∃ a, x = .ok a ∧ f a = .error err := by
  cases x <;> simp [bind, Except.bind]

theorem map_eq_ok_iff {f : α → β} {b : β} : f <$> x = .ok b ↔ ∃ a, x = .ok a ∧ f a = b := by
  cases x <;> simp [Functor.map, Except.map]

theorem map_eq_error_iff {f : α → β} : f <$> x = .error err ↔ x = .error err := by
  cases x <;> simp [Functor.map, Except.map]

end

variable {c : Compiler} {a a' : Assembly} {span : Span} {spans : List Span} {nodes : List Node}

/-! ### What a marker holds -/

theorem readSpan_map {α β : Type} (f : α → β) (reader : Scan α) (span : Span) :
    readSpan (f <$> reader) span = f <$> readSpan reader span := by
  simp only [readSpan, Functor.map, EStateM.map]
  cases reader (Stream.ofContent span.content span.contentLocation) <;> rfl

/-- The content of a span is an expression, and nothing is left over. -/
def HoldsExpression (c : Compiler) (span : Span) (e : Expr) : Prop :=
  ∃ s, Expr.parse c.maxDepth span.stream = .ok e s ∧ s.AtEnd

/-- The content of a span is the header of a tag. -/
def HoldsHeader (c : Compiler) (span : Span) (header : TagHeader) : Prop :=
  ∃ s, TagHeader.parse c.maxDepth span.stream = .ok header s

/-- The call of a tag with a given header at a span. -/
def callOf (header : TagHeader) (handler : Handler) (span : Span) : TagCall :=
  ⟨header.name, handler, header.args, header.kwargs, span.location⟩

/-- The spans match the nodes, inside the bodies of some tags, whose names are given with the
innermost one first. A block whose name ends the innermost of them never opens a tag, even if its
name is registered. -/
inductive Matches (c : Compiler) : List String → List Span → List Node → Prop where
  | nil {opened} : Matches c opened [] []
  | comment {opened span spans nodes} (hkind : span.kind = .marker .comment)
      (hrest : Matches c opened spans nodes) : Matches c opened (span :: spans) nodes
  | text {opened span spans nodes} (hkind : span.kind = .text)
      (hrest : Matches c opened spans nodes) :
      Matches c opened (span :: spans) (.text span.content :: nodes)
  | expression {opened span spans nodes e} (hkind : span.kind = .marker .expression)
      (he : c.HoldsExpression span e) (hrest : Matches c opened spans nodes) :
      Matches c opened (span :: spans) (.expression e span.location :: nodes)
  /-- A tag without a body. -/
  | single {opened span spans nodes header handler} (hkind : span.kind = .marker .block)
      (hheader : c.HoldsHeader span header) (hopen : ∀ x ∈ opened.head?, header.name ≠ endName x)
      (hhandler : c.registry.get? header.name = some handler) (hbody : handler.hasBody = false)
      (hrest : Matches c opened spans nodes) :
      Matches c opened (span :: spans) (.tag (callOf header handler span) none :: nodes)
  /-- A tag with a body, from its opening to its end. -/
  | enclosing {opened span inner last spans body nodes header handler}
      (hkind : span.kind = .marker .block) (hheader : c.HoldsHeader span header)
      (hopen : ∀ x ∈ opened.head?, header.name ≠ endName x)
      (hhandler : c.registry.get? header.name = some handler) (hbody : handler.hasBody = true)
      (hdepth : opened.length < c.maxDepth) (hinner : Matches c (header.name :: opened) inner body)
      (hlast : last.kind = .marker .block) (hend : last.HoldsOnly (endName header.name))
      (hrest : Matches c opened spans nodes) :
      Matches c opened (span :: (inner ++ last :: spans))
        (.tag (callOf header handler span) (some body) :: nodes)

/-! ### One step -/

/-- A span ends the innermost open tag. -/
def EndsTag (a : Assembly) (span : Span) : Prop :=
  span.kind = .marker .block ∧ ∃ x ∈ a.names.head?, span.HoldsOnly (endName x)

/-- A span opens a tag, with a body or without one. -/
structure OpensTag (c : Compiler) (a : Assembly) (span : Span) (header : TagHeader)
    (handler : Handler) : Prop where
  kind_eq : span.kind = .marker .block
  holdsHeader : c.HoldsHeader span header
  name_ne : ∀ x ∈ a.names.head?, header.name ≠ endName x
  registered : c.registry.get? header.name = some handler
  depth_lt : handler.hasBody = true → a.opened.length < c.maxDepth

/-- What the compiler does with one span. -/
inductive Step (c : Compiler) (a : Assembly) (span : Span) : Assembly → Prop where
  | comment (hkind : span.kind = .marker .comment) : Step c a span a
  | text (hkind : span.kind = .text) : Step c a span (a.add (.text span.content))
  | expression {e} (hkind : span.kind = .marker .expression) (he : c.HoldsExpression span e) :
      Step c a span (a.add (.expression e span.location))
  | leave (h : EndsTag a span) : Step c a span a.leave
  | single {header handler} (h : c.OpensTag a span header handler)
      (hbody : handler.hasBody = false) :
      Step c a span (a.add (.tag (callOf header handler span) none))
  | enter {header handler} (h : c.OpensTag a span header handler)
      (hbody : handler.hasBody = true) : Step c a span (a.enter (callOf header handler span))

theorem holdsExpression_iff {e : Expr} :
    c.HoldsExpression span e ↔ readSpan c.wholeExpression span = .ok e := by
  rw [readSpan_eq_ok_iff]
  simp only [wholeExpression, Scan.bind_eq_ok_iff, Scan.pure_eq_ok_iff, Stream.expectEnd_eq_ok_iff]
  constructor
  · rintro ⟨s, hparse, t, s', hnext, ht⟩
    exact ⟨s', e, s, hparse, (), s', ⟨t, hnext, ht⟩, rfl, rfl⟩
  · rintro ⟨-, e', s, hparse, -, s', ⟨t, hnext, ht⟩, rfl, -⟩
    exact ⟨s, hparse, t, s', hnext, ht⟩

/-- The header of a tag is its name and then its arguments. -/
theorem holdsHeader_iff {header : TagHeader} :
    c.HoldsHeader span header ↔ ∃ t s₁ s', span.stream.next = .ok t s₁ ∧ t.kind = .name ∧
      t.text = header.name ∧ TagHeader.parseArguments c.maxDepth t.text s₁ = .ok header s' := by
  simp only [HoldsHeader, TagHeader.parse, Scan.bind_eq_ok_iff, Stream.parseName_eq_ok_iff]
  constructor
  · rintro ⟨s', t, s₁, ⟨hnext, ht⟩, hargs⟩
    refine ⟨t, s₁, s', hnext, ht, ?_, hargs⟩
    -- the arguments are read without touching the name
    simp only [TagHeader.parseArguments, Functor.map, EStateM.map] at hargs
    split at hargs
    · cases hargs
      rfl
    · cases hargs
  · rintro ⟨t, s₁, s', hnext, ht, -, hargs⟩
    exact ⟨s', t, s₁, ⟨hnext, ht⟩, hargs⟩

/-- How a block whose name has been read opens a tag. -/
theorem openBlock_eq_ok_iff {loc : Location} {t : Token} {s s' : Stream} :
    c.openBlock a loc t s = .ok a' s' ↔
      ∃ header handler, TagHeader.parseArguments c.maxDepth t.text s = .ok header s' ∧
        c.registry.get? t.text = some handler ∧
        (handler.hasBody = true → a.opened.length < c.maxDepth) ∧
        a' = if handler.hasBody then
            a.enter ⟨header.name, handler, header.args, header.kwargs, loc⟩
          else a.add (.tag ⟨header.name, handler, header.args, header.kwargs, loc⟩ none) := by
  unfold openBlock
  cases hhandler : c.registry.get? t.text with
  | none => simp [Stream.fail]
  | some handler =>
    by_cases hdepth : handler.hasBody = true ∧ c.maxDepth ≤ a.opened.length
    · simp only [hdepth, and_self, if_true, Stream.fail]
      constructor
      · rintro ⟨⟩
      · rintro ⟨-, handler', -, heq, hlt, -⟩
        obtain rfl := Option.some.inj heq
        exact absurd (hlt hdepth.1) (Nat.not_lt.2 hdepth.2)
    · simp only [if_neg hdepth, Scan.bind_eq_ok_iff]
      have hlt : handler.hasBody = true → a.opened.length < c.maxDepth := fun h =>
        Nat.lt_of_not_le fun hle => hdepth ⟨h, hle⟩
      constructor
      · rintro ⟨header, s₁, hargs, h⟩
        obtain ⟨rfl, rfl⟩ := Scan.pure_eq_ok_iff.1 h
        exact ⟨header, handler, hargs, rfl, hlt, rfl⟩
      · rintro ⟨header, handler', hargs, heq, -, rfl⟩
        obtain rfl := Option.some.inj heq
        exact ⟨header, s', hargs, rfl⟩

/-- How a block is read. -/
theorem readSpan_block_eq_ok_iff (hkind : span.kind = .marker .block) :
    readSpan (c.block a span.location) span = .ok a' ↔
      (EndsTag a span ∧ a' = a.leave) ∨
      ∃ header handler, c.OpensTag a span header handler ∧
        a' = if handler.hasBody then a.enter (callOf header handler span)
          else a.add (.tag (callOf header handler span) none) := by
  rw [readSpan_eq_ok_iff]
  simp only [block, Scan.bind_eq_ok_iff, Stream.parseName_eq_ok_iff]
  constructor
  · rintro ⟨s', t, s₁, ⟨hnext, ht⟩, h⟩
    split at h
    · next hended =>
      obtain ⟨_, s₂, hend, hleave⟩ := Scan.bind_eq_ok_iff.1 h
      obtain ⟨rfl, -⟩ := Scan.pure_eq_ok_iff.1 hleave
      obtain ⟨t', hnext', ht'⟩ := Stream.expectEnd_eq_ok_iff.1 hend
      obtain ⟨x, hx, hname⟩ := Assembly.isEndedBy_iff.1 hended
      exact Or.inl ⟨⟨hkind, x, hx, t, s₁, hnext, ht, hname, t', s₂, hnext', ht'⟩, rfl⟩
    · next hended =>
      obtain ⟨header, handler, hargs, hhandler, hdepth, rfl⟩ := openBlock_eq_ok_iff.1 h
      have hheader : c.HoldsHeader span header :=
        ⟨s', Scan.bind_eq_ok_iff.2 ⟨t, s₁, Stream.parseName_eq_ok_iff.2 ⟨hnext, ht⟩, hargs⟩⟩
      obtain ⟨t', s₁', s'', hnext', -, hname, -⟩ := holdsHeader_iff.1 hheader
      rw [hnext] at hnext'
      cases hnext'
      refine Or.inr ⟨header, handler,
        ⟨hkind, hheader, fun x hx hne => ?_, hname ▸ hhandler, hdepth⟩, rfl⟩
      exact hended (Assembly.isEndedBy_iff.2 ⟨x, hx, hname.trans hne⟩)
  · rintro (⟨⟨-, x, hx, t, s₁, hnext, ht, hname, t', s₂, hnext', ht'⟩, rfl⟩ |
      ⟨header, handler, hopens, rfl⟩)
    · refine ⟨s₂, t, s₁, ⟨hnext, ht⟩, ?_⟩
      rw [if_pos (Assembly.isEndedBy_iff.2 ⟨x, hx, hname⟩)]
      exact Scan.bind_eq_ok_iff.2 ⟨(), s₂, Stream.expectEnd_eq_ok_iff.2 ⟨t', hnext', ht'⟩, rfl⟩
    · obtain ⟨t, s₁, s', hnext, ht, hname, hargs⟩ := holdsHeader_iff.1 hopens.holdsHeader
      refine ⟨s', t, s₁, ⟨hnext, ht⟩, ?_⟩
      have hended : ¬ a.isEndedBy t.text = true := by
        rw [Assembly.isEndedBy_iff]
        rintro ⟨x, hx, heq⟩
        exact hopens.name_ne x hx (hname.symm.trans heq)
      rw [if_neg hended]
      exact openBlock_eq_ok_iff.2
        ⟨header, handler, hargs, hname ▸ hopens.registered, hopens.depth_lt, rfl⟩

/-- The step on a span, described without the readers. -/
theorem step_eq_ok_iff : c.step a span = .ok a' ↔ c.Step a span a' := by
  refine ⟨fun h => ?_, ?_⟩
  · unfold step at h
    split at h
    · next hkind =>
      cases h
      exact .text hkind
    · next hkind =>
      cases h
      exact .comment hkind
    · next hkind =>
      cases he : readSpan c.wholeExpression span with
      | error err => simp [he, bind, Except.bind] at h
      | ok e =>
        rw [he] at h
        cases h
        exact .expression hkind (holdsExpression_iff.2 he)
    · next hkind =>
      obtain ⟨hends, rfl⟩ | ⟨header, handler, hopens, rfl⟩ := (readSpan_block_eq_ok_iff hkind).1 h
      · exact .leave hends
      · cases hbody : handler.hasBody
        · exact .single hopens hbody
        · exact .enter hopens hbody
  · intro h
    cases h with
    | comment hkind => simp [step, hkind]
    | text hkind => simp [step, hkind]
    | expression hkind he =>
      rw [step, hkind]
      simp only [holdsExpression_iff.1 he]
      rfl
    | leave h =>
      rw [step, h.1]
      exact (readSpan_block_eq_ok_iff h.1).2 (Or.inl ⟨h, rfl⟩)
    | single h hbody =>
      rw [step, h.kind_eq]
      exact (readSpan_block_eq_ok_iff h.kind_eq).2 (Or.inr ⟨_, _, h, by simp [hbody]⟩)
    | enter h hbody =>
      rw [step, h.kind_eq]
      exact (readSpan_block_eq_ok_iff h.kind_eq).2 (Or.inr ⟨_, _, h, by simp [hbody]⟩)

/-! ### A run over some spans -/

/-- Reads some spans. -/
def run (c : Compiler) (a : Assembly) (spans : List Span) : Except Error Assembly :=
  spans.foldlM c.step a

theorem run_cons_of_ok (h : c.step a span = .ok a') :
    c.run a (span :: spans) = c.run a' spans := by
  simp only [run, List.foldlM_cons, h, bind, Except.bind]

theorem run_cons_of_error {err : Error} (h : c.step a span = .error err) :
    c.run a (span :: spans) = .error err := by
  simp only [run, List.foldlM_cons, h, bind, Except.bind]

theorem run_cons_eq_ok_iff :
    c.run a (span :: spans) = .ok a' ↔ ∃ a₁, c.Step a span a₁ ∧ c.run a₁ spans = .ok a' := by
  simp only [run, List.foldlM_cons, ← step_eq_ok_iff]
  cases c.step a span <;> simp [bind, Except.bind]

theorem run_append_eq_ok_iff {spans' : List Span} :
    c.run a (spans ++ spans') = .ok a' ↔
      ∃ a₁, c.run a spans = .ok a₁ ∧ c.run a₁ spans' = .ok a' := by
  simp only [run, List.foldlM_append]
  cases spans.foldlM c.step a <;> simp [bind, Except.bind]

/-- A run that fails does so at one of the spans. -/
theorem exists_step_of_run_eq_error {err : Error} (h : c.run a spans = .error err) :
    ∃ before span after b, spans = before ++ span :: after ∧ c.step b span = .error err := by
  induction spans generalizing a with
  | nil => cases h
  | cons span spans ih =>
    cases hstep : c.step a span with
    | error err' =>
      rw [run_cons_of_error hstep] at h
      cases h
      exact ⟨[], span, spans, a, rfl, hstep⟩
    | ok b =>
      rw [run_cons_of_ok hstep] at h
      obtain ⟨before, last, after, b', rfl, hlast⟩ := ih h
      exact ⟨span :: before, last, after, b', rfl, hlast⟩

/-- What every step keeps is kept by a run. -/
theorem run_induction {P : Assembly → Prop} (hstep : ∀ a span a', c.Step a span a' → P a → P a')
    (h : c.run a spans = .ok a') (ha : P a) : P a' := by
  induction spans generalizing a with
  | nil =>
    cases h
    exact ha
  | cons span spans ih =>
    obtain ⟨a₁, hstep₁, hrun⟩ := run_cons_eq_ok_iff.1 h
    exact ih hrun (hstep a span a₁ hstep₁ ha)

/-- Spans that match some nodes are read to the end, and the nodes are added. -/
theorem run_of_matches {opened : List String} (h : c.Matches opened spans nodes)
    (hopened : a.names = opened) : c.run a spans = .ok (a.addAll nodes) := by
  induction h generalizing a with
  | nil => rfl
  | comment hkind _ ih => exact run_cons_eq_ok_iff.2 ⟨a, .comment hkind, ih hopened⟩
  | text hkind _ ih =>
    rw [← Assembly.addAll_add]
    exact run_cons_eq_ok_iff.2 ⟨_, .text hkind, ih hopened⟩
  | expression hkind he _ ih =>
    rw [← Assembly.addAll_add]
    exact run_cons_eq_ok_iff.2 ⟨_, .expression hkind he, ih hopened⟩
  | single hkind hheader hopen hhandler hbody _ ih =>
    rw [← Assembly.addAll_add]
    refine run_cons_eq_ok_iff.2 ⟨_, .single ⟨hkind, hheader, ?_, hhandler, ?_⟩ hbody, ih hopened⟩
    · rwa [hopened]
    · simp [hbody]
  | @enclosing _ span _ last _ body _ header handler hkind hheader hopen hhandler hbody hdepth _
      hlast hend _ ihinner ih =>
    rw [← Assembly.addAll_add]
    have henter : c.Step a span (a.enter (callOf header handler span)) := by
      refine .enter ⟨hkind, hheader, ?_, hhandler, fun _ => ?_⟩ hbody
      · rwa [hopened]
      · rwa [← Assembly.length_names, hopened]
    have hleave : c.Step ((a.enter (callOf header handler span)).addAll body) last
        (a.add (.tag (callOf header handler span) (some body))) := by
      rw [← Assembly.leave_addAll_enter]
      exact .leave ⟨hlast, header.name, rfl, hend⟩
    refine run_cons_eq_ok_iff.2 ⟨_, henter, run_append_eq_ok_iff.2 ⟨_, ihinner ?_, ?_⟩⟩
    · rw [Assembly.names_enter, hopened]
      rfl
    · exact run_cons_eq_ok_iff.2 ⟨_, hleave, ih hopened⟩

/-- How a run ends that starts behind some open tags. -/
inductive Outcome (c : Compiler) (a : Assembly) : List Span → Assembly → Prop where
  /-- The spans match some nodes, which are added. -/
  | added {spans : List Span} {nodes : List Node} (h : c.Matches a.names spans nodes) :
      Outcome c a spans (a.addAll nodes)
  /-- Some spans match the rest of the body of the innermost open tag, and the next one ends it. -/
  | ended {inner last rest nodes b} (h : c.Matches a.names inner nodes) (hlast : EndsTag a last)
      (hrest : c.run (a.addAll nodes).leave rest = .ok b) : Outcome c a (inner ++ last :: rest) b
  /-- Another tag is opened behind some spans and never ended: what follows matches its body. -/
  | leftOpen {front span inner header handler nodes} {b : Assembly}
      (hopens : c.OpensTag b span header handler) (hbody : handler.hasBody = true)
      (h : c.Matches (header.name :: b.names) inner nodes) :
      Outcome c a (front ++ span :: inner) ((b.enter (callOf header handler span)).addAll nodes)

/-- Spans that add a node can be put in front of a run. -/
theorem Outcome.prepend (front : List Span) (new : List Node)
    (hmatches : ∀ {spans nodes}, c.Matches a.names spans nodes →
      c.Matches a.names (front ++ spans) (new ++ nodes))
    (h : c.Outcome (a.addAll new) spans a') : c.Outcome a (front ++ spans) a' := by
  have hadd (nodes : List Node) : (a.addAll new).addAll nodes = a.addAll (new ++ nodes) := by
    simp [Assembly.addAll]
  cases h with
  | added h =>
    rw [hadd]
    exact .added (hmatches h)
  | ended h hlast hrest =>
    rw [hadd] at hrest
    rw [← List.append_assoc]
    exact .ended (hmatches h) hlast hrest
  | leftOpen hopens hbody h =>
    rw [← List.append_assoc]
    exact .leftOpen hopens hbody h

/-- Every run ends in one of the three ways. -/
theorem outcome_of_run {spans : List Span} {a a' : Assembly} (h : c.run a spans = .ok a') :
    c.Outcome a spans a' := by
  cases spans with
  | nil =>
    cases h
    exact .added .nil
  | cons span spans =>
    obtain ⟨a₁, hstep, hrun⟩ := run_cons_eq_ok_iff.1 h
    cases hstep with
    | comment hkind =>
      exact Outcome.prepend [span] [] (.comment hkind) (outcome_of_run hrun)
    | text hkind =>
      exact Outcome.prepend [span] [_] (.text hkind) (outcome_of_run hrun)
    | expression hkind he =>
      exact Outcome.prepend [span] [_] (.expression hkind he)
        (outcome_of_run hrun)
    | leave hends => exact .ended .nil hends hrun
    | single hopens hbody =>
      exact Outcome.prepend [span] [_]
        (.single hopens.kind_eq hopens.holdsHeader hopens.name_ne hopens.registered hbody)
        (outcome_of_run hrun)
    | @enter header handler hopens hbody =>
      have hinner := outcome_of_run hrun
      generalize hb : a.enter (callOf header handler span) = b at hinner
      cases hinner with
      | added hmatches =>
        subst hb
        rw [← List.nil_append (span :: spans)]
        exact .leftOpen hopens hbody hmatches
      | leftOpen hopens' hbody' hmatches =>
        rw [← List.cons_append]
        exact .leftOpen hopens' hbody' hmatches
      | @ended inner last rest body _ h hlast hrest =>
        subst hb
        obtain ⟨hkind, x, hx, hend⟩ := hlast
        obtain rfl : header.name = x := by simpa [callOf] using hx
        rw [Assembly.leave_addAll_enter] at hrest
        have hout := outcome_of_run hrest
        have hcons : span :: (inner ++ last :: rest) = (span :: (inner ++ [last])) ++ rest := by
          simp
        rw [hcons]
        refine Outcome.prepend _ [_] (fun {spans nodes} h' => ?_) hout
        simpa using Matches.enclosing hopens.kind_eq hopens.holdsHeader hopens.name_ne
          hopens.registered hbody (a.length_names ▸ hopens.depth_lt hbody) h hkind hend h'
termination_by spans.length

/-! ### Compiling -/

theorem plan_eq_run (c : Compiler) (spans : List Span) :
    c.plan spans = c.run .empty spans >>= Assembly.finish := rfl

/-- Spans have a plan exactly if they match it. -/
theorem plan_eq_ok_iff : c.plan spans = .ok nodes ↔ c.Matches [] spans nodes := by
  rw [plan_eq_run, bind_eq_ok_iff]
  constructor
  · rintro ⟨a, hrun, hfinish⟩
    obtain ⟨hopened, hnodes⟩ := Assembly.finish_eq_ok_iff.1 hfinish
    cases outcome_of_run hrun with
    | added h => rwa [← hnodes, Assembly.reverse_nodes_addAll_empty]
    | ended _ hlast _ =>
      obtain ⟨-, x, hx, -⟩ := hlast
      simp [Assembly.names, Assembly.empty] at hx
    | leftOpen _ _ _ => simp [Assembly.enter] at hopened
  · intro h
    exact ⟨_, run_of_matches h rfl,
      Assembly.finish_eq_ok_iff.2 ⟨rfl, Assembly.reverse_nodes_addAll_empty nodes⟩⟩

theorem compile_eq_ok_iff_plan {source : String} :
    c.compile source = .ok ⟨nodes⟩ ↔ c.plan (Span.cut source) = .ok nodes := by
  rw [compile]
  cases c.plan (Span.cut source) <;> simp [bind, Except.bind, pure, Except.pure]

/-- Compiling succeeds exactly if the spans of the template match a plan, and with that plan. -/
theorem compile_eq_ok_iff {source : String} :
    c.compile source = .ok ⟨nodes⟩ ↔ c.Matches [] (Span.cut source) nodes := by
  rw [compile_eq_ok_iff_plan, plan_eq_ok_iff]

end Compiler

end TextTemplate
