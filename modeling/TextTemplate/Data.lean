import TextTemplate.Json

/-!
# Program data as JSON documents

Data of a program is handed to a template by way of a JSON document. Some data has no document: a
map whose keys are no plain names or numbers, and an integer that is too large.

## Main definitions

* `Data`: the data that a program may hand over.
* `DataError`: why some data has no document.
* `Data.toJson`: the document of some data.
-/

namespace TextTemplate

/-- Data that is handed to a template. -/
inductive Data where
  /-- The absence of optional data. -/
  | none
  /-- Optional data that is present. -/
  | some (d : Data)
  /-- Data without content. -/
  | unit
  | bool (b : Bool)
  /-- An integer of up to 128 bits. -/
  | int (n : Int)
  | float (x : Float)
  | string (s : String)
  | char (c : Char)
  /-- One of several named alternatives, without content. -/
  | variant (name : String)
  /-- One of several named alternatives, with content. -/
  | variantOf (name : String) (d : Data)
  | seq (items : List Data)
  | map (entries : List (Data × Data))

/-- Why data has no JSON document. -/
inductive DataError where
  /-- The key of a map cannot be written as the name of a member. -/
  | keyMustBeString
  /-- An integer has neither 64 bits with a sign nor 64 bits without. -/
  | numberOutOfRange
  deriving DecidableEq, Repr

/-- The cause in words. -/
def DataError.message : DataError → String
  | keyMustBeString => "key must be a string"
  | numberOutOfRange => "number out of range"

namespace Data

/-- The name of a member that stands for a key: text stands for itself, integers and truth values
for their text. -/
def key : Data → Except DataError String
  | .string s => .ok s
  | .char c => .ok (String.ofList [c])
  | .variant name => .ok name
  | .int n => .ok (toString n)
  | .bool b => .ok (if b then "true" else "false")
  | _ => .error .keyMustBeString

mutual

/-- The document of some data. The first fault counts, in the order in which the data is written, a
key before what is stored under it. -/
def toJson : Data → Except DataError Json
  | .none => .ok .null
  | .some d => d.toJson
  | .unit => .ok .null
  | .bool b => .ok (.bool b)
  | .int n =>
    if Int64.minValue.toInt ≤ n ∧ n < 2 ^ 64 then .ok (.integer n) else .error .numberOutOfRange
  | .float x => .ok (if x.isFinite then .real x else .null)
  | .string s => .ok (.string s)
  | .char c => .ok (.string (String.ofList [c]))
  | .variant name => .ok (.string name)
  | .variantOf name d => do return .object [(name, ← d.toJson)]
  | .seq items => do return .array (← itemsToJson items)
  | .map entries => do return .object (← entriesToJson entries)

/-- The documents of the items of a sequence. -/
def itemsToJson : List Data → Except DataError (List Json)
  | [] => .ok []
  | d :: ds => do return (← d.toJson) :: (← itemsToJson ds)

/-- The members that stand for the entries of a map. -/
def entriesToJson : List (Data × Data) → Except DataError (List (String × Json))
  | [] => .ok []
  | (k, d) :: es => do return (← k.key, ← d.toJson) :: (← entriesToJson es)

end

end Data

end TextTemplate
