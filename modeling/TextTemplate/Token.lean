import TextTemplate.Operator

/-!
# Tokens

A token is a piece of the text of a marker, together with where it stands there. Behind the last
piece there is the end marker, a token without text.

## Main definitions

* `Token`, `Token.Kind`.
* `Token.operator?`, `Token.isEnd`: what kind of token it is.
* `Token.describe`: the token in words.
-/

namespace TextTemplate

/-- The kinds of token. -/
inductive Token.Kind where
  | name
  | number
  | string
  | operator (op : Operator)
  /-- The end of the text. -/
  | endMarker
  deriving DecidableEq, Repr

/-- The name of a kind, as messages give it. -/
def Token.Kind.label : Token.Kind → String
  | name => "name"
  | number => "number"
  | string => "string"
  | operator _ => "operator"
  | endMarker => "end of expression"

/-- A token. The offsets of its first byte and of the byte behind it are counted in the UTF-8
encoding of the text of the marker. The line is the text of the line on which it stands. -/
structure Token where
  kind : Token.Kind
  text : String
  start : Nat
  stop : Nat
  line : String
  deriving DecidableEq, Repr

namespace Token

/-- The operator that a token is, if it is one. -/
def operator? (t : Token) : Option Operator :=
  match t.kind with
  | .operator op => some op
  | _ => none

/-- Whether a token is a given operator. -/
def isOperator (t : Token) (op : Operator) : Bool :=
  t.kind = .operator op

/-- Whether a token is the end marker. -/
def isEnd (t : Token) : Bool :=
  t.kind = .endMarker

/-- A token in words. -/
def describe (t : Token) : String :=
  if t.isEnd then t.kind.label else s!"{t.kind.label} `{t.text}`"

end Token

end TextTemplate
