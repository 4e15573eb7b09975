import TraceAutomata.Number.Binary64
import TraceAutomata.Text.Numeral

/-!
# Shortest decimals

The text of a floating-point number: the fewest decimal digits that read back as the same number, and of
those the digits nearest to it. A number is written positionally from `1e-4` up to below `1e16`, and with
an exponent of at least two digits elsewhere; a positional text always has a fraction.
-/

namespace TraceAutomata.Binary64

/-- The numbers that round to `significand * 2 ^ exponent`, as numerators over one denominator: the
number itself, the lower end and the upper end. The lower neighbour of a power of two is nearer. -/
structure RoundingInterval where
  value : Nat
  lower : Nat
  upper : Nat
  denominator : Nat
  endsIncluded : Bool

/-- The interval of a finite nonzero number. -/
def roundingInterval (significand : Nat) (exponent : Int) : RoundingInterval :=
  let lowerGap := if significand == Nat.pow 2 52 && leastExponent < exponent then 1 else 2
  let shift := exponent - 2
  let multiple (quarters : Nat) : Nat := if 0 ≤ shift then quarters <<< shift.toNat else quarters
  { value := multiple (4 * significand)
    lower := multiple (4 * significand - lowerGap)
    upper := multiple (4 * significand + 2)
    denominator := if 0 ≤ shift then 1 else 1 <<< (-shift).toNat
    endsIncluded := significand % 2 == 0 }

/-- Whether `digits * 10 ^ power` lies in the interval. -/
def RoundingInterval.holds (interval : RoundingInterval) (digits : Nat) (power : Int) : Bool :=
  let scaled := digits * interval.denominator * Nat.pow 10 power.toNat
  let unit := Nat.pow 10 (-power).toNat
  if interval.endsIncluded then
    interval.lower * unit ≤ scaled && scaled ≤ interval.upper * unit
  else
    interval.lower * unit < scaled && scaled < interval.upper * unit

/-- The power of ten at or below the number: `10 ^ p ≤ value < 10 ^ (p + 1)`. -/
def RoundingInterval.decimalPower (interval : RoundingInterval) : Int :=
  if interval.denominator ≤ interval.value then
    ((Text.decimalDigits (interval.value / interval.denominator)).length : Int) - 1
  else
    -((Text.decimalDigits (interval.denominator / interval.value)).length : Int)

/-- On the grid of multiples of `10 ^ power`, the point of the interval nearest to the number. -/
def RoundingInterval.nearest? (interval : RoundingInterval) (power : Int) : Option Nat :=
  let numerator := interval.value * Nat.pow 10 (-power).toNat
  let denominator := interval.denominator * Nat.pow 10 power.toNat
  let below := numerator / denominator
  let above := below + 1
  match interval.holds below power, interval.holds above power with
  | false, false => none
  | true, false => some below
  | false, true => some above
  | true, true => some (roundedQuotient numerator denominator)

/-- Try grids of one more digit each until one has a point in the interval. -/
def RoundingInterval.shortestFrom (interval : RoundingInterval) (power : Int) : Nat → Nat × Int
  | 0 => (interval.value, 0)
  | grids + 1 =>
    match interval.nearest? power with
    | some digits => (digits, power)
    | none => interval.shortestFrom (power - 1) grids

/-- Move trailing zeros of the digits into the power of ten. -/
def dropZeros : Nat → Nat × Int → Nat × Int
  | 0, decimal => decimal
  | steps + 1, (digits, power) =>
    if digits % 10 == 0 && digits != 0 then dropZeros steps (digits / 10, power + 1)
    else (digits, power)

/-- The shortest decimal of a finite nonzero number: its digits and the power of ten they count. -/
def shortestDecimal (significand : Nat) (exponent : Int) : Nat × Int :=
  let interval := roundingInterval significand exponent
  dropZeros 20 (interval.shortestFrom interval.decimalPower 18)

/-- Digits with a decimal point after the first `point` of them. -/
def positional (digits : List Char) (point : Int) : List Char :=
  if point ≤ 0 then '0' :: '.' :: (List.replicate (-point).toNat '0' ++ digits)
  else if (digits.length : Int) ≤ point then
    digits ++ List.replicate (point.toNat - digits.length) '0' ++ ['.', '0']
  else digits.take point.toNat ++ '.' :: digits.drop point.toNat

/-- Digits with the point after the first of them and a power of ten. -/
def scientific (digits : List Char) (exponent : Int) : List Char :=
  let fraction := if digits.length ≤ 1 then [] else '.' :: digits.drop 1
  let sign := if exponent < 0 then '-' else '+'
  digits.take 1 ++ fraction ++
    'e' :: sign :: Text.padLeft '0' 2 (Text.decimalDigits exponent.natAbs)

/-- The text of a finite number without its sign. -/
def magnitudeText (significand : Nat) (exponent : Int) : List Char :=
  if significand == 0 then ['0', '.', '0']
  else
    let decimal := shortestDecimal significand exponent
    let digits := Text.decimalDigits decimal.1
    let point := (digits.length : Int) + decimal.2
    if -4 ≤ point - 1 && point - 1 < 16 then positional digits point
    else scientific digits (point - 1)

/-- The text of a number. -/
def text : Binary64 → String
  | .finite negative significand exponent =>
    String.ofList ((if negative then ['-'] else []) ++ magnitudeText significand exponent)
  | .infinite negative => if negative then "-inf" else "inf"
  | .notANumber => "nan"

end TraceAutomata.Binary64
