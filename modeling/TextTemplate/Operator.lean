/-!
# Operators

The operators of the token language, with their spellings. Several operators begin with the spelling
of another one; at the front of a text the longest one counts.

## Main definitions

* `Operator`, `Operator.spelling`, `Operator.text`.
* `Operator.all`: all operators, longer ones before shorter ones.
* `Operator.ofText?`: the operator with a given spelling.
* `Operator.front?`: the longest operator at the front of a text.
-/

namespace TextTemplate

/-- An operator. -/
inductive Operator where
  | leftParen
  | rightParen
  | leftBracket
  | rightBracket
  | colon
  | comma
  | semicolon
  | plus
  | minus
  | star
  | slash
  | bar
  | ampersand
  | less
  | greater
  | equal
  | dot
  | percent
  | leftBrace
  | rightBrace
  | equalEqual
  | notEqual
  | lessEqual
  | greaterEqual
  | tilde
  | caret
  | shiftLeft
  | shiftRight
  | starStar
  | plusEqual
  | minusEqual
  | starEqual
  | slashEqual
  | percentEqual
  | ampersandEqual
  | barEqual
  | caretEqual
  | shiftLeftEqual
  | shiftRightEqual
  | starStarEqual
  | slashSlash
  | slashSlashEqual
  | atSign
  deriving DecidableEq, Repr

namespace Operator

/-- The characters of an operator. -/
def spelling : Operator → List Char
  | leftParen => ['(']
  | rightParen => [')']
  | leftBracket => ['[']
  | rightBracket => [']']
  | colon => [':']
  | comma => [',']
  | semicolon => [';']
  | plus => ['+']
  | minus => ['-']
  | star => ['*']
  | slash => ['/']
  | bar => ['|']
  | ampersand => ['&']
  | less => ['<']
  | greater => ['>']
  | equal => ['=']
  | dot => ['.']
  | percent => ['%']
  | leftBrace => ['{']
  | rightBrace => ['}']
  | equalEqual => ['=', '=']
  | notEqual => ['!', '=']
  | lessEqual => ['<', '=']
  | greaterEqual => ['>', '=']
  | tilde => ['~']
  | caret => ['^']
  | shiftLeft => ['<', '<']
  | shiftRight => ['>', '>']
  | starStar => ['*', '*']
  | plusEqual => ['+', '=']
  | minusEqual => ['-', '=']
  | starEqual => ['*', '=']
  | slashEqual => ['/', '=']
  | percentEqual => ['%', '=']
  | ampersandEqual => ['&', '=']
  | barEqual => ['|', '=']
  | caretEqual => ['^', '=']
  | shiftLeftEqual => ['<', '<', '=']
  | shiftRightEqual => ['>', '>', '=']
  | starStarEqual => ['*', '*', '=']
  | slashSlash => ['/', '/']
  | slashSlashEqual => ['/', '/', '=']
  | atSign => ['@']

/-- The text of an operator. -/
def text (op : Operator) : String :=
  String.ofList op.spelling

/-- All operators, longer ones before shorter ones. -/
def all : List Operator :=
  [starStarEqual, shiftRightEqual, shiftLeftEqual, slashSlashEqual,
   equalEqual, notEqual, lessEqual, greaterEqual, shiftLeft, shiftRight, starStar, slashSlash,
   plusEqual, minusEqual, starEqual, slashEqual, percentEqual, ampersandEqual, barEqual, caretEqual,
   leftParen, rightParen, leftBracket, rightBracket, colon, comma, semicolon, plus, minus, star,
   slash, bar, ampersand, less, greater, equal, dot, percent, leftBrace, rightBrace, tilde, caret,
   atSign]

theorem mem_all (op : Operator) : op ∈ all := by
  cases op <;> decide

theorem spelling_ne_nil (op : Operator) : op.spelling ≠ [] := by
  cases op <;> decide

/-- The operator with the given characters. -/
def ofSpelling? (cs : List Char) : Option Operator :=
  all.find? fun op => op.spelling = cs

theorem ofSpelling?_spelling (op : Operator) : ofSpelling? op.spelling = some op := by
  cases op <;> rfl

/-- The operator with the given text. -/
def ofText? (s : String) : Option Operator :=
  ofSpelling? s.toList

/-- The longest operator at the front of a text, and what follows it. -/
def front? (cs : List Char) : Option (Operator × List Char) :=
  (all.find? fun op => op.spelling.isPrefixOf cs).map fun op => (op, cs.drop op.spelling.length)

/-- The text of an operator at the front of a text is its spelling. -/
theorem eq_of_front? {cs rest : List Char} {op : Operator} (h : front? cs = some (op, rest)) :
    cs = op.spelling ++ rest := by
  obtain ⟨op', hfind, heq⟩ := Option.map_eq_some_iff.1 h
  obtain ⟨rfl, rfl⟩ := Prod.mk.inj heq
  have hfits : op'.spelling.isPrefixOf cs = true := by simpa using List.find?_some hfind
  obtain ⟨suffix, rfl⟩ := List.isPrefixOf_iff_prefix.1 hfits
  rw [List.drop_left]

end Operator

end TextTemplate
