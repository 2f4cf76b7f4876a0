/-!
# Binary floating-point formats

A binary format holds the numbers `m · 2 ^ e` whose significand `m` has at most a given number of
bits and whose exponent `e` lies between two bounds. A quotient of natural numbers is rounded to the
nearest such number; of two that are equally near, the one with the even significand is taken. All
of this is exact arithmetic on natural numbers.

## Main definitions

* `BinaryFormat`: the width of the significand and the bounds on the exponent.
* `BinaryFormat.double`, `BinaryFormat.single`: the formats of 64 and of 32 bits.
* `BinaryFormat.round`: the number of the format that is nearest to a quotient.
* `BinaryFormat.nearestDouble`, `BinaryFormat.nearestSingle`: the nearest number as a `Float`.
-/

namespace TextTemplate

/-- The quotient rounded to the nearest natural number, and to the even one of two that are equally
near. -/
def roundHalfEven (num den : Nat) : Nat :=
  let quotient := num / den
  let twice := 2 * (num % den)
  if twice < den then quotient
  else if den < twice then quotient + 1
  else quotient + quotient % 2

/-- A binary floating-point format: the number of bits of a significand, and the least and the
greatest exponent of its last bit. -/
structure BinaryFormat where
  precision : Nat
  leastExponent : Int
  greatestExponent : Int

namespace BinaryFormat

/-- The format of 64 bits. -/
def double : BinaryFormat := ⟨53, -1074, 971⟩

/-- The format of 32 bits. -/
def single : BinaryFormat := ⟨24, -149, 104⟩

/-- The greatest `e` with `2 ^ e ≤ num / den`, for positive numbers. -/
def logTwo (num den : Nat) : Int :=
  let guess : Int := (num.log2 : Int) - den.log2
  if den <<< guess.toNat ≤ num <<< (-guess).toNat then guess else guess - 1

/-- The significand and the exponent of the number that is nearest to a quotient, or nothing if that
is beyond the greatest number of the format. -/
def round (f : BinaryFormat) (num den : Nat) : Option (Nat × Int) :=
  if num = 0 then some (0, f.leastExponent)
  else
    let e := max f.leastExponent (logTwo num den - (f.precision - 1 : Nat))
    let m := roundHalfEven (num <<< (-e).toNat) (den <<< e.toNat)
    if f.greatestExponent < e ∨ e = f.greatestExponent ∧ 1 <<< f.precision ≤ m then none
    else some (m, e)

/-- The bits of a number of the format `double`, given by a significand and an exponent. Adding the
significand to the shifted exponent carries its leading bit into the exponent field. -/
def doubleBits (m : Nat) (e : Int) : Nat :=
  (e - double.leastExponent).toNat <<< 52 + m

/-- The bits of infinity in the format `double`. -/
def infinityBits : Nat := 2047 <<< 52

/-- Infinity. -/
def infinity : Float := Float.ofBits (UInt64.ofNat infinityBits)

/-- The number nearest to a quotient in the format `double`, or infinity. -/
def nearestDouble (num den : Nat) : Float :=
  match double.round num den with
  | some (m, e) => Float.ofBits (UInt64.ofNat (doubleBits m e))
  | none => infinity

/-- The number nearest to a quotient in the format `single`, or infinity. Every number of that
format is one of the format `double` too. -/
def nearestSingle (num den : Nat) : Float :=
  match single.round num den with
  | some (m, e) => nearestDouble (m <<< e.toNat) (1 <<< (-e).toNat)
  | none => infinity

end BinaryFormat

end TextTemplate
