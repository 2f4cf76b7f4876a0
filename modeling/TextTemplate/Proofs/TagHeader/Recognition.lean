import TextTemplate.Proofs.Expr.Recognition
import TextTemplate.Proofs.TagHeader.Grammar

/-!
# Reading tag headers is exact

A header is read exactly if the text has tokens up to its end, the first of them is a name, and the
others can be cut into items: commas, keyword arguments and positional ones. Reading goes on up to
the end of the text, so it fails if somewhere no token stands.

There is only one way to cut. The tokens of an expression and those behind it determine the
expression as soon as no trailer follows, because reading is a function and every list of tokens is
delivered by some stream. Behind an item there is the end, a comma or an atom, so neither a trailer
nor an equals sign follows.

## Main definitions

* `Argument.Item`: a comma, a keyword argument or a positional one, with its tokens.
* `Argument.Item.positional?`, `Argument.Item.keyword?`: what an item adds to a header.

## Main results

* `TagHeader.parse_eq_ok_iff`: what is read, in terms of derivations.
* `Argument.Item.allTokens_injective`: there is only one way to cut.
* `TagHeader.parse_iff_items`: what is read, and how its items are found.
-/

namespace TextTemplate

/-! ### Reading and what is delivered -/

namespace Stream

variable {s s' : Stream} {ts us : List Token} {fault fault' : Option Error}

theorem Delivers.isPrefix (h : s.Delivers ts fault) (h' : s.Delivers us fault') : ts <+: us := by
  rw [← List.append_nil ts] at h
  obtain ⟨s', htakes, -⟩ := h.exists_takes
  obtain ⟨vs, rfl, -⟩ := htakes.exists_delivers h'
  exact List.prefix_append ts vs

/-- A stream delivers one list of tokens only. -/
theorem Delivers.unique (h : s.Delivers ts fault) (h' : s.Delivers us fault') : ts = us :=
  (h.isPrefix h').eq_of_length_le (h'.isPrefix h).length_le

/-- Every list of tokens without the end marker is delivered by some stream. -/
theorem exists_delivers_list (hts : ∀ t ∈ ts, t.isEnd = false) :
    ∃ s : Stream, s.Delivers ts none := by
  induction ts with
  | nil => exact ⟨ofContent "" .start, .finish rfl rfl ⟨rfl, rfl⟩⟩
  | cons t ts ih =>
    obtain ⟨ht, hrest⟩ := List.forall_mem_cons.1 hts
    obtain ⟨s, hs⟩ := ih hrest
    exact ⟨s.unread t, hs.unread ht⟩

end Stream

namespace Expr

variable {limit : Nat} {s s' : Stream} {ts us us' vs vs' ws : List Token} {e e' : Expr}
  {fault : Option Error}

/-- Where reading stops, the stream delivers what it did before, which begins with no trailer. -/
theorem Halts.delivers (h : Halts s s') (hs : s.Delivers ts fault) : s'.Delivers ts fault := by
  obtain ⟨t, s₁, hnext, -, rfl⟩ := h
  cases ht : t.isEnd with
  | true =>
    obtain ⟨rfl, rfl, hspent⟩ := hs.eq_nil hnext ht
    exact hspent.delivers
  | false =>
    obtain ⟨us, rfl, hs₁⟩ := hs.eq_cons hnext ht
    exact hs₁.unread ht

/-- What the loop takes is delivered first, and the rest is delivered behind it. -/
theorem derives_of_continueFrom_delivers {base : Expr} (hws : Derives ws base)
    (hdepth : base.bracketDepth ≤ limit) (hs : s.Delivers ts fault)
    (h : continueFrom limit 0 [] base s = .ok e s') :
    ∃ us vs, ts = us ++ vs ∧ Derives (ws ++ us) e ∧ e.bracketDepth ≤ limit ∧
      s'.Delivers vs fault := by
  obtain ⟨us, s₁, htakes, hderives, hdepth', hhalts⟩ :=
    derives_of_continueFrom (.outside hws (by simpa using hdepth)) h
  obtain ⟨vs, rfl, hs₁⟩ := htakes.exists_delivers hs
  exact ⟨us, vs, rfl, hderives, by simpa using hdepth', hhalts.delivers hs₁⟩

theorem derives_of_parse (hs : s.Delivers ts fault) (h : parse limit s = .ok e s') :
    ∃ us vs, ts = us ++ vs ∧ Derives us e ∧ e.bracketDepth ≤ limit ∧ s'.Delivers vs fault := by
  obtain ⟨us, s₁, htakes, hderives, hdepth, hhalts⟩ := parse_eq_ok_iff.1 h
  obtain ⟨vs, rfl, hs₁⟩ := htakes.exists_delivers hs
  exact ⟨us, vs, rfl, hderives, hdepth, hhalts.delivers hs₁⟩

/-- The first tokens derive one expression only, if no trailer follows. -/
theorem Derives.unique (h : Derives us e) (h' : Derives us' e') (heq : us ++ vs = us' ++ vs')
    (hstop : StopsAt vs) (hstop' : StopsAt vs') (hend : ∀ t ∈ us ++ vs, t.isEnd = false) :
    us = us' ∧ e = e' := by
  obtain ⟨s, hs⟩ := Stream.exists_delivers_list hend
  have hlimit := Nat.le_max_left e.bracketDepth e'.bracketDepth
  have hlimit' := Nat.le_max_right e.bracketDepth e'.bracketDepth
  obtain ⟨s₁, hparse, hs₁⟩ := parse_eq_ok_of_derives h hlimit hs hstop
  rw [heq] at hs
  obtain ⟨s₂, hparse', hs₂⟩ := parse_eq_ok_of_derives h' hlimit' hs hstop'
  rw [hparse] at hparse'
  cases hparse'
  obtain rfl := hs₁.unique hs₂
  exact ⟨List.append_cancel_right heq, rfl⟩

/-- The tokens of an expression are its atoms, points, names and brackets. -/
theorem Derives.kind_of_mem (h : Derives us e) : ∀ t ∈ us,
    (∃ a, Expr.atom t = .ok a) ∨ t.kind = .operator .dot ∨ t.kind = .operator .leftBracket ∨
      t.kind = .operator .rightBracket := by
  induction h with
  | atom h => exact List.forall_mem_singleton.2 (Or.inl ⟨_, h⟩)
  | @member ts base dot name _ hdot hname ih =>
    refine List.forall_mem_append.2 ⟨ih, List.forall_mem_cons.2 ⟨Or.inr (Or.inl hdot), ?_⟩⟩
    exact List.forall_mem_singleton.2 (Or.inl ⟨.lookup name.text, by rw [Expr.atom, hname]⟩)
  | item _ hleft _ hright ihbase ihkey =>
    refine List.forall_mem_append.2 ⟨ihbase,
      List.forall_mem_cons.2 ⟨Or.inr (Or.inr (Or.inl hleft)), List.forall_mem_append.2 ⟨ihkey, ?_⟩⟩⟩
    exact List.forall_mem_singleton.2 (Or.inr (Or.inr (Or.inr hright)))

theorem Derives.isEnd_eq_false (h : Derives us e) : ∀ t ∈ us, t.isEnd = false := by
  intro t ht
  rcases h.kind_of_mem t ht with ⟨a, ha⟩ | hkind | hkind | hkind
  · rw [Bool.eq_false_iff]
    exact mt Token.isEnd_iff.1 (kind_ne_endMarker_of_atom ha)
  all_goals simp [Token.isEnd, hkind]

theorem Derives.kind_ne_equal (h : Derives us e) : ∀ t ∈ us, t.kind ≠ .operator .equal := by
  intro t ht hequal
  rcases h.kind_of_mem t ht with ⟨a, ha⟩ | hkind | hkind | hkind
  · simp [Expr.atom, hequal] at ha
  all_goals
    rw [hequal] at hkind
    cases hkind

end Expr

namespace TagHeader

variable {limit : Nat} {s s' : Stream} {ts : List Token} {args : List Argument} {H : TagHeader}
  {fault : Option Error}

/-! ### Reading arguments -/

theorem andThen_eq_ok_iff {a : Argument} {r : EStateM.Result Error Stream (List Argument)} :
    andThen a r = .ok args s' ↔ ∃ rest, r = .ok rest s' ∧ args = a :: rest := by
  cases r with
  | error err s => simp [andThen]
  | ok rest s =>
    constructor
    · intro h
      cases h
      exact ⟨rest, rfl, rfl⟩
    · rintro ⟨_, ⟨⟩, rfl⟩
      rfl

/-- What is read up to the end of the text derives the arguments. -/
theorem derives_of_arguments (hs : s.Delivers ts fault) (h : arguments limit s = .ok args s') :
    fault = none ∧ Argument.Derives ts args ∧ ∀ a ∈ args, a.value.bracketDepth ≤ limit := by
  fun_induction arguments limit s generalizing ts args with
  | case1 | case4 | case5 | case7 | case9 => cases h
  | case2 s t s₁ hnext hend =>
    cases h
    obtain ⟨rfl, hfault, -⟩ := hs.eq_nil hnext (Token.isEnd_iff.2 hend)
    exact ⟨hfault, .nil, by simp⟩
  | case3 s t s₁ hnext hcomma ih =>
    obtain ⟨us, rfl, hs₁⟩ := hs.eq_cons hnext (by simp [Token.isEnd, hcomma])
    obtain ⟨hfault, hrest, hdepth⟩ := ih hs₁ h
    exact ⟨hfault, .comma hcomma hrest, hdepth⟩
  | case6 s t s₁ hnext hname follower s₂ hfollower hequal e s₃ hparse ih =>
    obtain ⟨rest, hrest, rfl⟩ := andThen_eq_ok_iff.1 h
    have hequal' : follower.kind = .operator .equal := by simpa [Token.isOperator] using hequal
    obtain ⟨us, rfl, hs₁⟩ := hs.eq_cons hnext (by simp [Token.isEnd, hname])
    obtain ⟨us, rfl, hs₂⟩ := hs₁.eq_cons hfollower (by simp [Token.isEnd, hequal'])
    obtain ⟨us, vs, rfl, he, hdepth, hs₃⟩ := Expr.derives_of_parse hs₂ hparse
    obtain ⟨hfault, hargs, hdepths⟩ := ih hs₃ hrest
    exact ⟨hfault, .keyword hname hequal' he hargs, List.forall_mem_cons.2 ⟨hdepth, hdepths⟩⟩
  | case8 s t s₁ hnext hname follower s₂ hfollower hequal e s₃ htrailers ih =>
    obtain ⟨rest, hrest, rfl⟩ := andThen_eq_ok_iff.1 h
    obtain ⟨us, rfl, hs₁⟩ := hs.eq_cons hnext (by simp [Token.isEnd, hname])
    -- the token behind the name was pushed back, so the loop sees the same as before
    have hloop : Expr.continueFrom limit 0 [] (.lookup t.text) s₁ = .ok e s₃ := by
      rw [← htrailers, Expr.parseTrailers]
      exact Expr.continueFrom_congr hfollower
    have hatom : Expr.Derives [t] (.lookup t.text) := .atom (by rw [Expr.atom, hname])
    obtain ⟨us, vs, rfl, he, hdepth, hs₃⟩ :=
      Expr.derives_of_continueFrom_delivers hatom (Nat.zero_le _) hs₁ hloop
    obtain ⟨hfault, hargs, hdepths⟩ := ih hs₃ hrest
    exact ⟨hfault, .positional he hargs, List.forall_mem_cons.2 ⟨hdepth, hdepths⟩⟩
  | case10 s t s₁ hnext e s₂ hparse hend hcomma hname ih =>
    obtain ⟨rest, hrest, rfl⟩ := andThen_eq_ok_iff.1 h
    have hend' : t.isEnd = false := by
      rw [Bool.eq_false_iff]
      exact mt Token.isEnd_iff.1 hend
    obtain ⟨us, rfl, hs₁⟩ := hs.eq_cons hnext hend'
    obtain ⟨us, vs, heq, he, hdepth, hs₂⟩ := Expr.derives_of_parse (hs₁.unread hend') hparse
    obtain ⟨hfault, hargs, hdepths⟩ := ih hs₂ hrest
    rw [heq]
    exact ⟨hfault, .positional he hargs, List.forall_mem_cons.2 ⟨hdepth, hdepths⟩⟩

/-- A header is read exactly if the text has tokens up to its end, the first one is the name of the
tag and the others derive the arguments. -/
theorem parse_eq_ok_iff (hs : s.pending = []) : (∃ s', parse limit s = .ok H s') ↔
    ∃ name ts args, s.Delivers (name :: ts) none ∧ name.kind = .name ∧ Argument.Derives ts args ∧
      (∀ a ∈ args, a.value.bracketDepth ≤ limit) ∧ H = ofArguments name.text args := by
  constructor
  · rintro ⟨s', h⟩
    obtain ⟨name, s₁, hname, hrest⟩ := Scan.bind_eq_ok_iff.1 h
    obtain ⟨hnext, hkind⟩ := Stream.parseName_eq_ok_iff.1 hname
    obtain ⟨us, fault, hs'⟩ := Stream.exists_delivers hs
    obtain ⟨ts, rfl, hs₁⟩ := hs'.eq_cons hnext (by simp [Token.isEnd, hkind])
    simp only [parseArguments, Functor.map, EStateM.map] at hrest
    split at hrest
    · next args s₂ hargs =>
      cases hrest
      obtain ⟨rfl, hderives, hdepth⟩ := derives_of_arguments hs₁ hargs
      exact ⟨name, ts, args, hs', hkind, hderives, hdepth, rfl⟩
    · cases hrest
  · rintro ⟨name, ts, args, hs', hkind, hderives, hdepth, rfl⟩
    exact parse_of_derives hkind hderives hdepth hs'

end TagHeader

/-! ### Items -/

namespace Argument

variable {ts ts' : List Token} {args args' : List Argument}

/-- The tokens of an item, and the argument that it is unless it is a comma. -/
inductive Forms : List Token → Option Argument → Prop where
  | comma {t : Token} (ht : t.kind = .operator .comma) : Forms [t] none
  | keyword {t equal : Token} {us : List Token} {e : Expr} (ht : t.kind = .name)
      (hequal : equal.kind = .operator .equal) (he : Expr.Derives us e) :
      Forms (t :: equal :: us) (some (.keyword t.text e))
  | positional {us : List Token} {e : Expr} (he : Expr.Derives us e) :
      Forms us (some (.positional e))

/-- An item of a tag header: a comma, a keyword argument or a positional one. -/
@[ext] structure Item where
  tokens : List Token
  argument? : Option Argument
  forms : Forms tokens argument?

/-- The tokens of some items, one item behind the other. -/
def Item.allTokens (items : List Item) : List Token :=
  items.flatMap tokens

/-- The arguments among some items. -/
def Item.arguments (items : List Item) : List Argument :=
  items.filterMap argument?

/-- The expression of an item that is a positional argument. -/
def Item.positional? (item : Item) : Option Expr :=
  match item.argument? with
  | some (.positional e) => some e
  | _ => none

/-- The name and the expression of an item that is a keyword argument. -/
def Item.keyword? (item : Item) : Option (String × Expr) :=
  match item.argument? with
  | some (.keyword name e) => some (name, e)
  | _ => none

/-- A header holds what its items add to it, in their order. -/
theorem Item.ofArguments_eq (name : String) (items : List Item) :
    TagHeader.ofArguments name (Item.arguments items) =
      ⟨name, items.filterMap positional?, items.filterMap keyword?⟩ := by
  rw [TagHeader.ofArguments, Item.arguments, List.filterMap_filterMap, List.filterMap_filterMap]
  congr 2 <;> funext ⟨_, argument?, _⟩
  all_goals rcases argument? with _ | _ | _ <;> rfl

@[simp] theorem Item.allTokens_nil : Item.allTokens [] = [] := rfl

@[simp] theorem Item.allTokens_cons (item : Item) (items : List Item) :
    Item.allTokens (item :: items) = item.tokens ++ Item.allTokens items := rfl

/-- Arguments are derived from the tokens that can be cut into items. -/
theorem derives_iff_items :
    Derives ts args ↔ ∃ items, Item.allTokens items = ts ∧ Item.arguments items = args := by
  constructor
  · intro h
    induction h with
    | nil => exact ⟨[], rfl, rfl⟩
    | comma ht _ ih =>
      obtain ⟨items, rfl, rfl⟩ := ih
      exact ⟨⟨_, _, .comma ht⟩ :: items, rfl, rfl⟩
    | keyword ht hequal he _ ih =>
      obtain ⟨items, rfl, rfl⟩ := ih
      exact ⟨⟨_, _, .keyword ht hequal he⟩ :: items, rfl, rfl⟩
    | positional he _ ih =>
      obtain ⟨items, rfl, rfl⟩ := ih
      exact ⟨⟨_, _, .positional he⟩ :: items, rfl, rfl⟩
  · rintro ⟨items, rfl, rfl⟩
    induction items with
    | nil => exact .nil
    | cons item items ih =>
      obtain ⟨tokens, argument?, hforms⟩ := item
      cases hforms with
      | comma ht => exact .comma ht ih
      | keyword ht hequal he => exact .keyword ht hequal he ih
      | positional he => exact .positional he ih

theorem Item.derives (items : List Item) :
    Derives (Item.allTokens items) (Item.arguments items) :=
  derives_iff_items.2 ⟨items, rfl, rfl⟩

/-- Behind an argument no trailer follows. -/
theorem Item.stopsAt (items : List Item) : Expr.StopsAt (Item.allTokens items) :=
  (Item.derives items).stopsAt

/-! ### There is one way to cut -/

theorem Forms.ne_nil {argument? : Option Argument} (h : Forms ts argument?) : ts ≠ [] := by
  cases h with
  | comma | keyword => exact List.cons_ne_nil _ _
  | positional he =>
    obtain ⟨t, us, a, rfl, -⟩ := he.eq_cons
    exact List.cons_ne_nil _ _

theorem Forms.isEnd_eq_false {argument? : Option Argument} (h : Forms ts argument?) :
    ∀ t ∈ ts, t.isEnd = false := by
  cases h with
  | comma ht => exact List.forall_mem_singleton.2 (by simp [Token.isEnd, ht])
  | keyword ht hequal he =>
    exact List.forall_mem_cons.2 ⟨by simp [Token.isEnd, ht],
      List.forall_mem_cons.2 ⟨by simp [Token.isEnd, hequal], he.isEnd_eq_false⟩⟩
  | positional he => exact he.isEnd_eq_false

/-- An item that begins with a comma is nothing else. -/
theorem Forms.of_comma {argument? : Option Argument} {t : Token} {us back : List Token}
    (h : Forms us argument?) (heq : us ++ ts = t :: back) (ht : t.kind = .operator .comma) :
    us = [t] ∧ argument? = none := by
  cases h with
  | comma =>
    cases heq
    exact ⟨rfl, rfl⟩
  | keyword hname =>
    cases heq
    rw [ht] at hname
    cases hname
  | positional he =>
    obtain ⟨u, us, a, rfl, ha, -⟩ := he.eq_cons
    cases heq
    simp [Expr.atom, ht] at ha

/-- An item that begins with a name and an equals sign is a keyword argument. -/
theorem Forms.of_keyword {argument? : Option Argument} {t equal : Token} {us back : List Token}
    (h : Forms us argument?) (hts : Derives ts args) (heq : us ++ ts = t :: equal :: back)
    (ht : t.kind = .name) (hequal : equal.kind = .operator .equal) :
    ∃ vs e, us = t :: equal :: vs ∧ Expr.Derives vs e ∧ argument? = some (.keyword t.text e) := by
  cases h with
  | comma hcomma =>
    cases heq
    rw [ht] at hcomma
    cases hcomma
  | keyword _ _ he =>
    cases heq
    exact ⟨_, _, rfl, he, rfl⟩
  | positional he =>
    obtain ⟨u, us, a, rfl, -, htrailers⟩ := he.eq_cons
    obtain ⟨-, hback⟩ := List.cons.inj heq
    cases us with
    | nil =>
      have hhead : equal ∈ ts.head? := congrArg List.head? hback
      exact absurd hequal (hts.head_ne (by decide) equal hhead)
    | cons u us =>
      cases hback
      simpa [Expr.StartsTrailer, hequal] using htrailers equal rfl

/-- The first item is determined by its tokens and those of the items behind it. -/
theorem Forms.unique {argument? argument?' : Option Argument} {us us' : List Token}
    (h : Forms us argument?) (h' : Forms us' argument?') (hts : Derives ts args)
    (hts' : Derives ts' args') (heq : us ++ ts = us' ++ ts')
    (hend : ∀ t ∈ us ++ ts, t.isEnd = false) : us = us' ∧ argument? = argument?' := by
  cases h with
  | comma ht =>
    obtain ⟨rfl, rfl⟩ := h'.of_comma heq.symm ht
    exact ⟨rfl, rfl⟩
  | keyword ht hequal he =>
    obtain ⟨vs, e', rfl, he', rfl⟩ := h'.of_keyword hts' heq.symm ht hequal
    simp only [List.cons_append, List.forall_mem_cons, List.cons.injEq, true_and] at heq hend
    obtain ⟨rfl, rfl⟩ := he.unique he' heq hts.stopsAt hts'.stopsAt hend.2.2
    exact ⟨rfl, rfl⟩
  | positional he =>
    cases h' with
    | comma ht =>
      obtain ⟨-, hnone⟩ := (Forms.positional he).of_comma heq ht
      cases hnone
    | keyword ht hequal _ =>
      obtain ⟨_, _, _, _, hkeyword⟩ := (Forms.positional he).of_keyword hts heq ht hequal
      cases hkeyword
    | positional he' =>
      obtain ⟨rfl, rfl⟩ := he.unique he' heq hts.stopsAt hts'.stopsAt hend
      exact ⟨rfl, rfl⟩

theorem Item.isEnd_eq_false (items : List Item) :
    ∀ t ∈ Item.allTokens items, t.isEnd = false := by
  intro t ht
  obtain ⟨item, -, hmem⟩ := List.mem_flatMap.1 ht
  exact item.forms.isEnd_eq_false t hmem

/-- The tokens can be cut into items in one way only. -/
theorem Item.allTokens_injective {items items' : List Item}
    (h : Item.allTokens items = Item.allTokens items') : items = items' := by
  induction items generalizing items' with
  | nil =>
    cases items' with
    | nil => rfl
    | cons item' items' => exact absurd (List.append_eq_nil_iff.1 h.symm).1 item'.forms.ne_nil
  | cons item items ih =>
    cases items' with
    | nil => exact absurd (List.append_eq_nil_iff.1 h).1 item.forms.ne_nil
    | cons item' items' =>
      obtain ⟨htokens, hargument⟩ := item.forms.unique item'.forms (Item.derives items)
        (Item.derives items') h (Item.isEnd_eq_false (item :: items))
      obtain rfl : item = item' := Item.ext htokens hargument
      rw [ih (List.append_cancel_left h)]

/-! ### Where equals signs and trailers stand -/

/-- Every token belongs to an item. -/
theorem Item.exists_eq_append {items : List Item} {front back : List Token} {t : Token}
    (h : Item.allTokens items = front ++ t :: back) :
    ∃ before item after us vs, items = before ++ item :: after ∧ item.tokens = us ++ t :: vs ∧
      front = Item.allTokens before ++ us ∧ back = vs ++ Item.allTokens after := by
  induction items generalizing front with
  | nil => simp at h
  | cons item items ih =>
    rw [Item.allTokens_cons] at h
    rcases List.append_eq_append_iff.1 h with ⟨us, rfl, hitems⟩ | ⟨vs, htokens, hback⟩
    · obtain ⟨before, item', after, us', vs, rfl, htokens, rfl, hback⟩ := ih hitems
      exact ⟨item :: before, item', after, us', vs, rfl, htokens, by simp, hback⟩
    · cases vs with
      | nil =>
        have hitems : Item.allTokens items = [] ++ t :: back := hback.symm
        obtain ⟨before, item', after, us', vs, rfl, htokens', hfront, hback'⟩ := ih hitems
        exact ⟨item :: before, item', after, us', vs, rfl, htokens',
          by rw [Item.allTokens_cons, List.append_assoc, ← hfront, htokens, List.append_nil,
            List.append_nil], hback'⟩
      | cons v vs =>
        obtain ⟨rfl, rfl⟩ := List.cons.inj hback
        exact ⟨[], item, items, front, vs, rfl, htokens, rfl, rfl⟩

/-- An item begins with a comma or with an atom. -/
theorem Forms.starts {argument? : Option Argument} {t : Token} {us : List Token}
    (h : Forms (t :: us) argument?) :
    t.kind = .operator .comma ∨ ∃ a, Expr.atom t = .ok a := by
  have hderives := Item.derives [⟨_, _, h⟩]
  exact hderives.starts t rfl

/-- An equals sign within an item stands behind the name of a keyword argument. -/
theorem Forms.keyword_of_equal {argument? : Option Argument} {t : Token} {us vs : List Token}
    (h : Forms (us ++ t :: vs) argument?) (ht : t.kind = .operator .equal) :
    ∃ name e, us = [name] ∧ argument? = some (.keyword name.text e) := by
  generalize hts : us ++ t :: vs = ts at h
  have hmem : t ∈ ts := hts ▸ List.mem_append_right us List.mem_cons_self
  cases h with
  | comma hcomma =>
    obtain rfl := List.mem_singleton.1 hmem
    rw [ht] at hcomma
    cases hcomma
  | positional he => exact absurd ht (he.kind_ne_equal t hmem)
  | keyword hname hequal he =>
    match us, hts with
    | [], hts =>
      cases hts
      rw [ht] at hname
      cases hname
    | [name], hts =>
      cases hts
      exact ⟨_, _, rfl, rfl⟩
    | _ :: _ :: us, hts =>
      cases hts
      exact absurd ht (he.kind_ne_equal t (List.mem_append_right us List.mem_cons_self))

/-- A point or an opening bracket lies within an argument, behind its first token. -/
theorem Forms.of_startsTrailer {argument? : Option Argument} {t : Token} {us vs : List Token}
    (h : Forms (us ++ t :: vs) argument?) (ht : Expr.StartsTrailer t) :
    us ≠ [] ∧ argument?.isSome = true := by
  have hne : us ≠ [] := by
    rintro rfl
    rcases h.starts with hcomma | ⟨a, ha⟩
    · rcases ht with ht | ht <;> simp [ht] at hcomma
    · rcases ht with ht | ht <;> simp [Expr.atom, ht] at ha
  refine ⟨hne, ?_⟩
  generalize hts : us ++ t :: vs = ts at h
  cases h with
  | comma =>
    have hlength := congrArg List.length hts
    have hpos := List.length_pos_iff.2 hne
    simp only [List.length_append, List.length_cons, List.length_nil] at hlength
    omega
  | keyword | positional => rfl

end Argument

/-- A header is read exactly if the text has tokens up to its end, the first one is the name of the
tag and the others are those of items. The name of the header is that of the tag, its arguments are
the positional ones among the items and its keywords are theirs, each in the order of the text and
with all repetitions. There is one way only to find the items: an equals sign always belongs to the
name before it, and what continues an expression to the argument before it. -/
theorem TagHeader.parse_iff_items (limit : Nat) (content : String) (origin : Location) :
    let s := Stream.ofContent content origin
    (∀ H, (∃ s', parse limit s = .ok H s') ↔
        ∃ name items last, s.tokens = name :: Argument.Item.allTokens items ++ [last] ∧
          last.isEnd = true ∧ name.kind = .name ∧
          (∀ a ∈ Argument.Item.arguments items, a.value.bracketDepth ≤ limit) ∧
          H.name = name.text ∧ H.args = items.filterMap Argument.Item.positional? ∧
          H.kwargs = items.filterMap Argument.Item.keyword?) ∧
      (∀ t ∈ s.tokens, ∀ e, Expr.Derives [t] e ↔ Expr.Denotes t e) ∧
      (∀ items items' : List Argument.Item,
        Argument.Item.allTokens items = Argument.Item.allTokens items' → items = items') ∧
      ∀ (items : List Argument.Item) (front back : List Token) (t : Token),
        Argument.Item.allTokens items = front ++ t :: back →
        ∃ before item after us vs, items = before ++ item :: after ∧ item.tokens = us ++ t :: vs ∧
          front = Argument.Item.allTokens before ++ us ∧
          (t.kind = .operator .equal →
            ∃ name e, us = [name] ∧ item.argument? = some (.keyword name.text e)) ∧
          (Expr.StartsTrailer t → us ≠ [] ∧ item.argument?.isSome = true) := by
  intro s
  have hs : s.pending = [] := rfl
  refine ⟨fun H => ?_, fun t ht e => Expr.derives_singleton_iff_denotes hs ht,
    fun _ _ => Argument.Item.allTokens_injective, fun items front back t h => ?_⟩
  · rw [parse_eq_ok_iff hs]
    constructor
    · rintro ⟨name, ts, args, hdelivers, hname, hderives, hdepth, rfl⟩
      obtain ⟨last, htokens, hlast⟩ := (Stream.delivers_iff_tokens hs).1 hdelivers
      obtain ⟨items, rfl, rfl⟩ := Argument.derives_iff_items.1 hderives
      rw [Argument.Item.ofArguments_eq]
      exact ⟨name, items, last, htokens, hlast, hname, hdepth, rfl, rfl, rfl⟩
    · rintro ⟨name, items, last, htokens, hlast, hname, hdepth, hH, hargs, hkwargs⟩
      refine ⟨name, _, _, (Stream.delivers_iff_tokens hs).2 ⟨last, htokens, hlast⟩, hname,
        Argument.Item.derives items, hdepth, ?_⟩
      rw [Argument.Item.ofArguments_eq, ← hH, ← hargs, ← hkwargs]
  · obtain ⟨before, item, after, us, vs, rfl, htokens, hfront, -⟩ :=
      Argument.Item.exists_eq_append h
    have hforms := item.forms
    rw [htokens] at hforms
    exact ⟨before, item, after, us, vs, rfl, htokens, hfront, hforms.keyword_of_equal,
      hforms.of_startsTrailer⟩

/-- A keyword that occurs twice is kept twice, and commas may be left out or repeated. -/
theorem TagHeader.parse_iff_items_repeated_keyword :
    ∃ s', parse 0 (Stream.ofContent "t k=1,, a k=2" .start) =
      .ok ⟨"t", [.lookup "a"], [("k", .literal (.int 1)), ("k", .literal (.int 2))]⟩ s' := by
  have htakes : (Stream.ofContent "t k=1,, a k=2" .start).Takes _ _ :=
    .cons rfl rfl (.cons rfl rfl (.cons rfl rfl (.cons rfl rfl (.cons rfl rfl (.cons rfl rfl
      (.cons rfl rfl (.cons rfl rfl (.cons rfl rfl (.cons rfl rfl .nil)))))))))
  have htokens := htakes.tokens_eq.trans (congrArg _ (Stream.tokens_of_isEnd rfl rfl))
  let token (kind : Token.Kind) (text : String) (start : Nat) : Token :=
    ⟨kind, text, start, start + 1, "t k=1,, a k=2"⟩
  have hone : Expr.atom ⟨.number, "1", 4, 5, "t k=1,, a k=2"⟩ = .ok (.literal (.int 1)) := rfl
  have htwo : Expr.atom ⟨.number, "2", 12, 13, "t k=1,, a k=2"⟩ = .ok (.literal (.int 2)) := rfl
  let items : List Argument.Item :=
    [⟨[token .name "k" 2, token (.operator .equal) "=" 3, token .number "1" 4], _,
        .keyword rfl rfl (.atom hone)⟩,
      ⟨[token (.operator .comma) "," 5], _, .comma rfl⟩,
      ⟨[token (.operator .comma) "," 6], _, .comma rfl⟩,
      ⟨[token .name "a" 8], _, .positional (.atom rfl)⟩,
      ⟨[token .name "k" 10, token (.operator .equal) "=" 11, token .number "2" 12], _,
        .keyword rfl rfl (.atom htwo)⟩]
  have hdepth : ∀ a ∈ Argument.Item.arguments items, a.value.bracketDepth ≤ 0 := by
    simp [items, Argument.Item.arguments, Argument.value, Expr.bracketDepth]
  exact ((parse_iff_items 0 "t k=1,, a k=2" .start).1 _).2
    ⟨token .name "t" 0, items, _, htokens, rfl, rfl, hdepth, rfl, rfl, rfl⟩

end TextTemplate
