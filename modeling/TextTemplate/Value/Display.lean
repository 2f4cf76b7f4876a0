import TextTemplate.Decimal.FloatText
import TextTemplate.Text.Quoted
import TextTemplate.Value

/-!
# Values as text

A value has two texts. The one that a template puts out shows a string as it is and the absence of a
value as nothing. The other one is written as in source text: strings are quoted and the absence of
a value is spelled out. Inside lists and maps values are always written in the second way.

## Main definitions

* `Value.inspect`: a value as in source text.
* `Value.display`: a value as a template puts it out.
-/

namespace TextTemplate.Value

mutual

/-- A value as in source text. -/
def inspect : Value → String
  | .null => "none"
  | .bool true => "true"
  | .bool false => "false"
  | .int n => toString n.toInt
  | .float x => floatText x
  | .string s => Quoted.string s
  | .list items => "[" ++ ", ".intercalate (inspectItems items) ++ "]"
  | .map entries => "\x7b" ++ ", ".intercalate (inspectEntries entries) ++ "\x7d"

/-- The items of a list as in source text. -/
def inspectItems : List Value → List String
  | [] => []
  | v :: vs => inspect v :: inspectItems vs

/-- The entries of a map as in source text. -/
def inspectEntries : List (String × Value) → List String
  | [] => []
  | (k, v) :: es => (Quoted.string k ++ ": " ++ inspect v) :: inspectEntries es

end

/-- A value as a template puts it out. -/
def display : Value → String
  | .null => ""
  | .string s => s
  | v => v.inspect

end TextTemplate.Value
