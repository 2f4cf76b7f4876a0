import TextTemplate.Decimal.Shortest

/-!
# Floating-point numbers as text

A number is written with the fewest digits that read back to it. Numbers of middling size are
written with a decimal point and at least one digit on either side of it, very small and very large
ones with an exponent.

## Main definitions

* `FloatLayout`: where the positional form ends, and the texts of zero, infinity and NaN.
* `FloatLayout.template`: the layout of numbers in templates.
* `floatText`: the text of a number.
-/

namespace TextTemplate

/-- How numbers are laid out. The positional form is used while the position of the decimal point,
counted from the first digit, lies between two bounds. -/
structure FloatLayout where
  leastPoint : Int
  greatestPoint : Int
  zero : String
  infinity : String
  nan : String

namespace FloatLayout

/-- Numbers in templates are positional from `0.0001` up to, but not including, `10 ^ 16`. -/
def template : FloatLayout := ⟨-3, 16, "0.0", "inf", "NaN"⟩

/-- The number `0.d₁d₂… · 10 ^ point` in positional form. -/
def positional (digits : List Char) (point : Int) : List Char :=
  if point ≤ 0 then '0' :: '.' :: (List.replicate (-point).toNat '0' ++ digits)
  else
    let whole := digits.take point.toNat ++ List.replicate (point.toNat - digits.length) '0'
    let fraction := digits.drop point.toNat
    whole ++ '.' :: if fraction = [] then ['0'] else fraction

/-- The number `0.d₁d₂… · 10 ^ point` with one digit before the decimal point and an exponent. -/
def scientific (digits : List Char) (point : Int) : List Char :=
  let mantissa := match digits with
    | d :: e :: ds => d :: '.' :: e :: ds
    | ds => ds
  mantissa ++ 'e' :: (toString (point - 1)).toList

/-- The positive number `n · 10 ^ exponent`. Zeros at the end of its digits do not count. -/
def decimal (layout : FloatLayout) (n : Nat) (exponent : Int) : List Char :=
  let digits := Nat.toDigits 10 n
  let point := exponent + digits.length
  let significant := (digits.reverse.dropWhile (· = '0')).reverse
  if layout.leastPoint ≤ point ∧ point ≤ layout.greatestPoint then positional significant point
  else scientific significant point

/-- The text of the number with these bits. -/
def ofBits (layout : FloatLayout) (bits : Nat) : String :=
  let sign := if (bits >>> 63) % 2 = 1 then "-" else ""
  let magnitude := bits % (1 <<< 63)
  if BinaryFormat.infinityBits < magnitude then layout.nan
  else if magnitude = BinaryFormat.infinityBits then sign ++ layout.infinity
  else if magnitude = 0 then sign ++ layout.zero
  else
    let (n, exponent) := (RoundingInterval.ofBits magnitude).shortest
    sign ++ String.ofList (layout.decimal n exponent)

end FloatLayout

/-- The text of a number in a template. -/
def floatText (x : Float) : String :=
  FloatLayout.template.ofBits x.toBits.toNat

end TextTemplate
