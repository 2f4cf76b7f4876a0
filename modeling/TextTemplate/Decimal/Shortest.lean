import TextTemplate.Decimal.Binary

/-!
# The shortest decimal that reads back

Every positive floating-point number is the nearest one to all numbers of some interval around it.
Among the decimals of that interval those with the fewest digits are taken, and of these the one
nearest to the number itself; of two equally near ones it is the greater.

## Main definitions

* `RoundingInterval`: a number with the bounds of the interval that rounds to it.
* `RoundingInterval.ofBits`: the interval of a number of 64 bits.
* `RoundingInterval.shortest`: the digits and the exponent of the shortest decimal.
-/

namespace TextTemplate

/-- A positive number and the interval of numbers that are rounded to it. The number and the bounds
are quotients with one denominator, and the bounds may or may not belong to the interval. -/
structure RoundingInterval where
  lower : Nat
  value : Nat
  upper : Nat
  denominator : Nat
  closed : Bool

namespace RoundingInterval

/-- The interval of the number of 64 bits with these bits, read without their sign. A bound lies
half way to the neighbour, so below a power of two it is half as far as above it. The bounds belong
to the interval if the significand is even, because ties are rounded to even. -/
def ofBits (bits : Nat) : RoundingInterval :=
  let field := (bits >>> 52) % 2048
  let fraction := bits % (1 <<< 52)
  let m := if field = 0 then fraction else fraction + 1 <<< 52
  let quarter : Int := (max field 1 : Nat) - 1 + BinaryFormat.double.leastExponent - 2
  let scale := 1 <<< quarter.toNat
  let below := if field ≠ 0 ∧ fraction = 0 then 1 else 2
  { lower := (4 * m - below) * scale
    value := 4 * m * scale
    upper := (4 * m + 2) * scale
    denominator := 1 <<< (-quarter).toNat
    closed := m % 2 = 0 }

/-- The number of digits before the decimal point of the value, or minus the number of zeros after
the point before the first digit. No number of 64 bits is smaller than `10 ^ -324`. -/
def pointPosition (x : RoundingInterval) : Int :=
  (toString (x.value * Nat.pow 10 324 / x.denominator)).length - 324

/-- The decimal with the last digit at the given power of ten that lies in the interval and is
nearest to the value, if one does. Only the two neighbours of the value can be that decimal; of two
equally near ones it is the greater. -/
def onGrid? (x : RoundingInterval) (exponent : Int) : Option Nat :=
  let up := Nat.pow 10 exponent.toNat
  let down := Nat.pow 10 (-exponent).toNat
  let unit := x.denominator * up
  let floor := x.value * down / unit
  let within (a b : Nat) : Bool := a < b || x.closed && a == b
  let floorFits := within (x.lower * down) (floor * unit)
  let ceilingFits := within ((floor + 1) * unit) (x.upper * down)
  let ceilingNearer := (2 * floor + 1) * unit ≤ 2 * (x.value * down)
  if ceilingFits && (!floorFits || ceilingNearer) then some (floor + 1)
  else if floorFits then some floor
  else none

/-- The first decimal with the given number of digits or more that lies in the interval, up to a
number of attempts. The decimal point of the value is at the given position. -/
def shortestFrom (x : RoundingInterval) (point : Int) (digits : Nat) : Nat → Nat × Int
  | 0 => (0, 0)
  | attempts + 1 =>
    match x.onGrid? (point - digits) with
    | some n => (n, point - digits)
    | none => x.shortestFrom point (digits + 1) attempts

/-- The shortest decimal of the interval, as digits and an exponent. Seventeen digits tell all
numbers of 64 bits apart, so the search does not run out of attempts. -/
def shortest (x : RoundingInterval) : Nat × Int :=
  x.shortestFrom x.pointPosition 1 17

end RoundingInterval

end TextTemplate
