import TextTemplate.Decimal.Binary

/-!
# Decimal numerals

A decimal numeral is a sign, a natural number and a power of ten by which it is multiplied. Numerals
are read from text exactly, and only the number that they denote is rounded.

## Main definitions

* `Numeral`: a decimal numeral.
* `Numeral.ofChars?`: reads a numeral with an optional sign, point and exponent.
* `Numeral.toDouble`, `Numeral.toSingle`: the nearest floating-point number.
* `doubleOfText?`, `singleOfText?`: reads a floating-point number, infinities and NaN included.
-/

namespace TextTemplate

/-- The natural number that some decimal digits denote. -/
def natOfDigits (ds : List Char) : Nat :=
  ds.foldl (fun n d => 10 * n + (d.toNat - '0'.toNat)) 0

/-- The decimal numeral `± digits · 10 ^ exponent`. -/
structure Numeral where
  negative : Bool
  digits : Nat
  exponent : Int

namespace Numeral

/-! ### Reading -/

/-- Splits a sign off the front: whether it is a minus sign, and what follows. -/
def splitSign : List Char → Bool × List Char
  | '-' :: cs => (true, cs)
  | '+' :: cs => (false, cs)
  | cs => (false, cs)

/-- Splits a point and the digits behind it off the front: the digits, and what follows. -/
def splitFraction : List Char → List Char × List Char
  | '.' :: cs => (cs.takeWhile Char.isDigit, cs.dropWhile Char.isDigit)
  | cs => ([], cs)

/-- Reads an exponent: nothing, or the letter `e` and an integer. -/
def exponent? : List Char → Option Int
  | [] => some 0
  | e :: cs =>
    let (negative, ds) := splitSign cs
    if (e = 'e' ∨ e = 'E') ∧ ds ≠ [] ∧ ds.all Char.isDigit then
      some (if negative then -(natOfDigits ds : Int) else natOfDigits ds)
    else none

/-- Reads a numeral that is the whole of a text: an optional sign, digits with an optional point
among, before or after them, and an optional exponent. -/
def ofChars? (cs : List Char) : Option Numeral :=
  let (negative, cs) := splitSign cs
  let whole := cs.takeWhile Char.isDigit
  let (fraction, rest) := splitFraction (cs.dropWhile Char.isDigit)
  if whole = [] ∧ fraction = [] then none
  else (exponent? rest).map fun e =>
    ⟨negative, natOfDigits (whole ++ fraction), e - fraction.length⟩

/-! ### Rounding -/

/-- Rounds the magnitude of a numeral. A numeral far outside the range of all formats goes to zero
or beyond every bound without its power of ten being formed. -/
def magnitude (nearest : Nat → Nat → Float) (x : Numeral) : Float :=
  let point : Int := x.exponent + (Nat.toDigits 10 x.digits).length
  if x.digits = 0 ∨ point < -400 then nearest 0 1
  else if 400 < point then nearest (Nat.pow 10 400) 1
  else nearest (x.digits * Nat.pow 10 x.exponent.toNat) (Nat.pow 10 (-x.exponent).toNat)

/-- The number nearest to a numeral, by a rounding function for magnitudes. -/
def toFloat (nearest : Nat → Nat → Float) (x : Numeral) : Float :=
  if x.negative then -x.magnitude nearest else x.magnitude nearest

/-- The nearest number of 64 bits. -/
def toDouble : Numeral → Float := toFloat BinaryFormat.nearestDouble

/-- The nearest number of 32 bits. -/
def toSingle : Numeral → Float := toFloat BinaryFormat.nearestSingle

end Numeral

/-- Reads a number by a rounding function for numerals. Infinity and NaN are spelled in letters of
either case. -/
def floatOfText? (round : Numeral → Float) (s : String) : Option Float :=
  let (negative, word) := Numeral.splitSign s.toLower.toList
  if word ∈ ["inf".toList, "infinity".toList] then
    some (if negative then -BinaryFormat.infinity else BinaryFormat.infinity)
  else if word = "nan".toList then some (0.0 / 0.0)
  else (Numeral.ofChars? s.toList).map round

/-- Reads a number of 64 bits, correctly rounded. -/
def doubleOfText? : String → Option Float := floatOfText? Numeral.toDouble

/-- Reads a number of 32 bits, correctly rounded. -/
def singleOfText? : String → Option Float := floatOfText? Numeral.toSingle

end TextTemplate
