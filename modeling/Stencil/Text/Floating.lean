/-!
# Floating point text

A decimal number is taken to the nearest value with a significand of 53 bits, and
that value is written with the fewest digits that are read back as the same value.
-/
namespace Stencil.Text

/-- The number `± mantissa · 10 ^ exponent`. -/
structure Decimal where
  negative : Bool
  mantissa : Nat
  exponent : Int
deriving DecidableEq

/-- The number `significand · 2 ^ exponent`. -/
structure Binary where
  significand : Nat
  exponent : Int
deriving DecidableEq

/-- The quotient to the nearest whole number, a tie to the even one. -/
def roundedQuotient (numerator denominator : Nat) : Nat :=
  let whole := numerator / denominator
  let double := 2 * (numerator % denominator)
  if double < denominator then whole
  else if denominator < double then whole + 1
  else whole + whole % 2

/-- The factor `base ^ exponent` as a fraction. -/
def powerFraction (base : Nat) (exponent : Int) : Nat × Nat :=
  (Nat.pow base exponent.toNat, Nat.pow base (-exponent).toNat)

namespace Binary

def bits : Nat := 53

/-- The least significand of a value whose exponent is not the least. -/
def leastSignificand : Nat := Nat.pow 2 (bits - 1)

def leastExponent : Int := -1074

/-- Rounds a positive fraction to a significand of 53 bits, fewer only at the least exponent. -/
def ofFraction (numerator denominator : Nat) : Binary :=
  let estimate : Int := numerator.log2 - denominator.log2 - (bits - 1)
  let scaledTo (exponent : Int) : Nat :=
    let (up, down) := powerFraction 2 exponent
    roundedQuotient (numerator * down) (denominator * up)
  let exponent := max leastExponent
    (if scaledTo estimate < leastSignificand then estimate - 1 else estimate)
  let significand := scaledTo exponent
  if significand = 2 * leastSignificand then ⟨leastSignificand, exponent + 1⟩ else ⟨significand, exponent⟩

/-- The multiple of `10 ^ place` nearest to the value, if it rounds to the value. -/
def decimalAt? (value : Binary) (place : Int) : Option Nat :=
  let (up, down) := powerFraction 2 (value.exponent - 2)
  let (scaleUp, scaleDown) := powerFraction 10 place
  let middle := 4 * value.significand * up * scaleDown
  let low := (4 * value.significand -
    (if value.significand = leastSignificand ∧ value.exponent ≠ leastExponent then 1 else 2))
      * up * scaleDown
  let high := (4 * value.significand + 2) * up * scaleDown
  let unit := down * scaleUp
  let nearest := roundedQuotient middle unit
  let inside (candidate : Nat) : Bool :=
    if value.significand % 2 = 0 then low ≤ candidate * unit && candidate * unit ≤ high
    else low < candidate * unit && candidate * unit < high
  [nearest, middle / unit, middle / unit + 1].find? inside

/-- The shortest decimal that rounds to the value, as digits and the place of the last one. -/
def shortest (value : Binary) : Nat × Int :=
  ((List.range 660).findSome? fun (step : Nat) =>
    let place : Int := 310 - step
    (value.decimalAt? place).map fun digits => (digits, place)).getD (0, 0)

end Binary

/-- Digits whose last one stands at `place`: with a decimal point from `10 ^ (-5)` up to
`10 ^ 16`, with an exponent outside. -/
def placedDigits (digits : Nat) (place : Int) : String :=
  let text := Nat.toDigits 10 digits
  let point : Int := text.length + place
  let zeros (count : Int) : List Char := List.replicate count.toNat '0'
  String.ofList <|
    if 0 ≤ place ∧ point ≤ 16 then text ++ zeros place ++ ['.', '0']
    else if 0 < point ∧ point ≤ 16 then text.take point.toNat ++ '.' :: text.drop point.toNat
    else if -5 < point ∧ point ≤ 0 then '0' :: '.' :: zeros (-point) ++ text
    else
      let fraction := if text.length = 1 then [] else '.' :: text.drop 1
      let sign := if 0 < point then '+' else '-'
      text.take 1 ++ fraction ++ 'e' :: sign :: Nat.toDigits 10 (point - 1).natAbs

namespace Decimal

/-- The text of the nearest floating point value. -/
def floatingText (number : Decimal) : String :=
  let sign := if number.negative then "-" else ""
  if number.mantissa = 0 then sign ++ "0.0"
  else
    let (up, down) := powerFraction 10 number.exponent
    let (digits, place) := (Binary.ofFraction (number.mantissa * up) down).shortest
    sign ++ placedDigits digits place

end Decimal

end Stencil.Text
