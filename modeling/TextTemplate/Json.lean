import TextTemplate.Decimal.Numeral
import TextTemplate.Value

/-!
# JSON documents as values

## Main definitions

* `Json`: a JSON document, its numbers split into integers and floating-point numbers.
* `Json.number?`: the number that a literal of a document denotes.
* `Value.ofJson`: a document as a value.
-/

namespace TextTemplate

/-- A JSON document. Integers, of any size, are kept apart from floating-point numbers. -/
inductive Json where
  | null
  | bool (b : Bool)
  | integer (n : Int)
  | real (x : Float)
  | string (s : String)
  | array (items : List Json)
  | object (members : List (String × Json))

/-- The number that a literal denotes. A literal without point and exponent is an integer, zero with
a minus sign excepted: only a floating-point zero has a sign. -/
def Json.number? (literal : List Char) : Option Json :=
  (Numeral.ofChars? literal).map fun x =>
    if literal.all (· ∉ ['.', 'e', 'E']) ∧ ¬ (x.negative ∧ x.digits = 0) then
      .integer (if x.negative then -(x.digits : Int) else x.digits)
    else .real x.toDouble

namespace Value

mutual

/-- A document as a value. An integer that does not fit into 64 bits becomes a floating-point
number, and of several members of an object with one name the last one counts. -/
def ofJson : Json → Value
  | .null => .null
  | .bool b => .bool b
  | .integer n => ofInt n
  | .real x => .float x
  | .string s => .string s
  | .array items => .list (ofJsonItems items)
  | .object members => ofEntries (ofJsonMembers members)

/-- The items of an array as values. -/
def ofJsonItems : List Json → List Value
  | [] => []
  | j :: js => ofJson j :: ofJsonItems js

/-- The members of an object as entries. -/
def ofJsonMembers : List (String × Json) → List (String × Value)
  | [] => []
  | (k, j) :: ms => (k, ofJson j) :: ofJsonMembers ms

end

end Value

end TextTemplate
