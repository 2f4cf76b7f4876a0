import TextTemplate.Bindings
import TextTemplate.Decimal.Binary

/-!
# Values

A value is what a variable holds and what an expression evaluates to. There are seven kinds.
Integers have 64 bits; the entries of a map are in ascending order of their keys.

## Main definitions

* `Value`, `Value.Kind`: values and their kinds.
* `Value.ofInt`, `Value.ofEntries`: integers of any size and entries in any order as values.
* `Value.beq`: equality of values, which compares floating-point numbers as numbers.
* `Value.member?`, `Value.item?`: the parts of a value.
-/

namespace TextTemplate

/-- A value. -/
inductive Value where
  /-- The absence of a value. -/
  | null
  | bool (b : Bool)
  | int (n : Int64)
  | float (x : Float)
  | string (s : String)
  | list (items : List Value)
  /-- A map, with its entries in ascending order of the keys. -/
  | map (entries : List (String × Value))

/-- The kinds of value. -/
inductive Value.Kind where
  | null
  | bool
  | int
  | float
  | string
  | list
  | map
  deriving DecidableEq, Repr

/-- The name of a kind, as messages give it. -/
def Value.Kind.name : Value.Kind → String
  | null => "none"
  | bool => "bool"
  | int => "int"
  | float => "float"
  | string => "string"
  | list => "list"
  | map => "map"

namespace Value

/-- The kind of a value. -/
def kind : Value → Kind
  | null => .null
  | bool _ => .bool
  | int _ => .int
  | float _ => .float
  | string _ => .string
  | list _ => .list
  | map _ => .map

/-- An integer of any size: exact if it fits into 64 bits, and else the nearest floating-point
number. -/
def ofInt (n : Int) : Value :=
  if Int64.minValue.toInt ≤ n ∧ n ≤ Int64.maxValue.toInt then .int (Int64.ofInt n)
  else
    let magnitude := BinaryFormat.nearestDouble n.natAbs 1
    .float (if n < 0 then -magnitude else magnitude)

/-- The map with some entries, of which the last one for a key counts. -/
def ofEntries (entries : List (String × Value)) : Value :=
  .map (Entries.ofList entries)

/-! ### Equality -/

mutual

/-- Equality of values. Values of different kinds differ, and floating-point numbers are compared as
numbers, so that a NaN differs from itself and both zeros are equal. -/
def beq : Value → Value → Bool
  | .null, .null => true
  | .bool a, .bool b => a == b
  | .int a, .int b => a == b
  | .float a, .float b => a == b
  | .string a, .string b => a == b
  | .list as, .list bs => beqItems as bs
  | .map as, .map bs => beqEntries as bs
  | _, _ => false

/-- Equality of the items of two lists, one by one. -/
def beqItems : List Value → List Value → Bool
  | [], [] => true
  | a :: as, b :: bs => beq a b && beqItems as bs
  | _, _ => false

/-- Equality of the entries of two maps, one by one. -/
def beqEntries : List (String × Value) → List (String × Value) → Bool
  | [], [] => true
  | (j, a) :: as, (k, b) :: bs => j == k && beq a b && beqEntries as bs
  | _, _ => false

end

instance : BEq Value := ⟨beq⟩

/-! ### Parts -/

/-- The member of a value with a given name. Only maps have members: their entries. -/
def member? : Value → String → Option Value
  | .map entries, name => entries.lookup name
  | _, _ => none

/-- The position that an index stands for in a sequence of a given length. A negative index counts
from the end. The position may lie behind the end of the sequence, but not before its start. -/
def position? (index : Int64) (length : Nat) : Option Nat :=
  if 0 ≤ index.toInt then some index.toInt.toNat
  else if index.toInt.natAbs ≤ length then some (length - index.toInt.natAbs)
  else none

/-- The element of a sequence at an index. -/
def element? {α : Type} (xs : List α) (index : Int64) : Option α :=
  (position? index xs.length).bind fun i => xs[i]?

/-- The item of a value at a key: an item of a list or a character of a string at an index, or an
entry of a map at its key. -/
def item? : Value → Value → Option Value
  | .list items, .int i => element? items i
  | .map entries, .string key => entries.lookup key
  | .string s, .int i => (element? s.toList i).map fun c => .string (String.ofList [c])
  | _, _ => none

end Value

end TextTemplate
