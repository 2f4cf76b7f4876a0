import TextTemplate.Expr.Parse

/-!
# Tag headers

The text of a block is a tag header: the name of the tag and its arguments. An argument is an
expression, or a name, an equals sign and an expression, which is a keyword argument. Commas may
stand anywhere between arguments and mean nothing.

A name is the keyword of an argument if an equals sign follows it, and else it begins an expression.

## Main definitions

* `Argument`: one argument of a tag.
* `TagHeader`: the name of a tag, its positional and its keyword arguments.
* `TagHeader.parseName`, `TagHeader.parseArguments`, `TagHeader.parse`: reads a header, or a part of
  it.
-/

namespace TextTemplate

/-- One argument of a tag. -/
inductive Argument where
  | positional (e : Expr)
  | keyword (name : String) (e : Expr)

/-- The name of a tag and its arguments, positional and keyword ones each in the order of the
source. Keywords may occur more than once. -/
structure TagHeader where
  name : String
  args : List Expr
  kwargs : List (String × Expr)

namespace TagHeader

/-- The header with the given name and arguments. -/
def ofArguments (name : String) (arguments : List Argument) : TagHeader where
  name := name
  args := arguments.filterMap fun
    | .positional e => some e
    | .keyword _ _ => none
  kwargs := arguments.filterMap fun
    | .positional _ => none
    | .keyword k e => some (k, e)

/-- Reads the name of a tag. -/
def parseName : Scan Token := do
  let t ← Stream.next
  if t.kind = .name then return t else Stream.unexpected .tagName t

/-- Puts an argument in front of those that are read behind it. -/
def andThen (argument : Argument) :
    EStateM.Result Error Stream (List Argument) → EStateM.Result Error Stream (List Argument)
  | .ok arguments s => .ok (argument :: arguments) s
  | .error err s => .error err s

/-- Reads arguments up to the end of the text. -/
def arguments (limit : Nat) (s : Stream) : EStateM.Result Error Stream (List Argument) :=
  match _h : s.next with
  | .error err s => .error err s
  | .ok t s₁ =>
    match _ht : t.kind with
    | .endMarker => .ok [] s₁
    | .operator .comma => arguments limit s₁
    | .name =>
      match _h₁ : s₁.next with
      | .error err s => .error err s
      | .ok follower s₂ =>
        if follower.isOperator .equal then
          match _h₂ : Expr.parse limit s₂ with
          | .error err s => .error err s
          | .ok e s₃ => andThen (.keyword t.text e) (arguments limit s₃)
        else
          match _h₂ : Expr.parseTrailers limit 0 (.lookup t.text) (s₂.unread follower) with
          | .error err s => .error err s
          | .ok e s₃ => andThen (.positional e) (arguments limit s₃)
    | _ =>
      match _h₁ : Expr.parse limit (s₁.unread t) with
      | .error err s => .error err s
      | .ok e s₂ => andThen (.positional e) (arguments limit s₂)
termination_by s.size
decreasing_by
  · exact Stream.size_lt_of_next _h (by simp [_ht])
  · exact Nat.lt_trans (Expr.size_of_parse _h₂)
      (Nat.lt_of_le_of_lt (Stream.size_le_of_next _h₁) (Stream.size_lt_of_next _h (by simp [_ht])))
  · exact Nat.lt_of_le_of_lt (Expr.size_of_parseTrailers _h₂)
      (Nat.lt_of_le_of_lt (Stream.size_unread_of_next _h₁)
        (Stream.size_lt_of_next _h (by simp [_ht])))
  · exact Nat.lt_of_lt_of_le (Expr.size_of_parse _h₁) (Stream.size_unread_of_next _h)

/-- Reads the arguments of a tag whose name has been read. -/
def parseArguments (limit : Nat) (name : String) : Scan TagHeader :=
  ofArguments name <$> arguments limit

/-- Reads a whole header. -/
def parse (limit : Nat) : Scan TagHeader := do
  let name ← parseName
  parseArguments limit name.text

end TagHeader

end TextTemplate
