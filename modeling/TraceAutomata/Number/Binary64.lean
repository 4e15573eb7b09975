/-!
# Binary floating point of 64 bits

Floating-point numbers as exact multiples of powers of two, with the rounding of an exact quotient to the
nearest of them. Every operation computes the exact result in integers and rounds once, halves to the
even neighbour.
-/

namespace TraceAutomata

/-- A floating-point number. A finite one is `significand * 2 ^ exponent` with a sign; its significand is
below `2 ^ 53`, its exponent is from `-1074` to `971`, and a significand below `2 ^ 52` occurs only with
the least exponent. -/
inductive Binary64
  | finite (negative : Bool) (significand : Nat) (exponent : Int)
  | infinite (negative : Bool)
  | notANumber
  deriving DecidableEq, Repr, Inhabited

namespace Binary64

/-- The least exponent. -/
def leastExponent : Int := -1074

/-- The greatest exponent. -/
def greatestExponent : Int := 971

/-- Zero, with a sign. -/
def zero (negative : Bool) : Binary64 :=
  .finite negative 0 leastExponent

/-- The whole number nearest to a quotient, halves to the even one. -/
def roundedQuotient (numerator denominator : Nat) : Nat :=
  let quotient := numerator / denominator
  let remainder := numerator % denominator
  if 2 * remainder < denominator then quotient
  else if denominator < 2 * remainder then quotient + 1
  else quotient + quotient % 2

/-- A quotient divided by a power of two, as a numerator and a denominator. -/
def overPower (numerator denominator : Nat) (exponent : Int) : Nat × Nat :=
  if 0 ≤ exponent then (numerator, denominator <<< exponent.toNat)
  else (numerator <<< (-exponent).toNat, denominator)

/-- The number nearest to a quotient. A quotient too large for a finite number gives an infinity. -/
def ofRatio (negative : Bool) (numerator denominator : Nat) : Binary64 :=
  if numerator == 0 then zero negative
  else
    let estimate := max leastExponent
      ((numerator.log2 : Int) - (denominator.log2 : Int) - 53)
    let coarse := overPower numerator denominator estimate
    let exponent := if coarse.1 / coarse.2 < Nat.pow 2 53 then estimate else estimate + 1
    let scaled := overPower numerator denominator exponent
    let rounded := roundedQuotient scaled.1 scaled.2
    let significand := if rounded == Nat.pow 2 53 then Nat.pow 2 52 else rounded
    let finalExponent := if rounded == Nat.pow 2 53 then exponent + 1 else exponent
    if greatestExponent < finalExponent then .infinite negative
    else .finite negative significand finalExponent

/-- The number nearest to `significand * 10 ^ exponent`. Exponents far outside the range of finite
numbers are answered without computing the power. -/
def ofDecimal (negative : Bool) (significand : Nat) (exponent : Int) : Binary64 :=
  let places : Int := (Nat.toDigits 10 significand).length
  if significand == 0 then zero negative
  else if 310 < places + exponent then .infinite negative
  else if places + exponent < -330 then zero negative
  else if 0 ≤ exponent then ofRatio negative (significand * Nat.pow 10 exponent.toNat) 1
  else ofRatio negative significand (Nat.pow 10 (-exponent).toNat)

/-- A finite number as an integer multiple of a power of two. -/
def dyadic? : Binary64 → Option (Int × Int)
  | .finite negative significand exponent =>
    some (if negative then -(significand : Int) else significand, exponent)
  | _ => none

/-- The number nearest to an integer multiple of a power of two; `negativeZero` is the sign of zero. -/
def ofDyadic (negativeZero : Bool) (multiple exponent : Int) : Binary64 :=
  if multiple == 0 then zero negativeZero
  else if 0 ≤ exponent then ofRatio (multiple < 0) (multiple.natAbs <<< exponent.toNat) 1
  else ofRatio (multiple < 0) multiple.natAbs (1 <<< (-exponent).toNat)

/-- The same number with the other sign. -/
def neg : Binary64 → Binary64
  | .finite negative significand exponent => .finite (!negative) significand exponent
  | .infinite negative => .infinite (!negative)
  | .notANumber => .notANumber

/-- The rounded sum. -/
def add : Binary64 → Binary64 → Binary64
  | .notANumber, _ => .notANumber
  | _, .notANumber => .notANumber
  | .infinite left, .infinite right => if left == right then .infinite left else .notANumber
  | .infinite left, .finite .. => .infinite left
  | .finite .., .infinite right => .infinite right
  | .finite leftNegative leftSignificand leftExponent,
    .finite rightNegative rightSignificand rightExponent =>
    let exponent := min leftExponent rightExponent
    let aligned (negative : Bool) (significand : Nat) (own : Int) : Int :=
      let magnitude : Int := (significand <<< (own - exponent).toNat : Nat)
      if negative then -magnitude else magnitude
    ofDyadic (leftNegative && rightNegative)
      (aligned leftNegative leftSignificand leftExponent
        + aligned rightNegative rightSignificand rightExponent) exponent

/-- The rounded product with a whole number, which is itself rounded first. -/
def scale (number : Binary64) (factor : Nat) : Binary64 :=
  match number, ofRatio false factor 1 with
  | .finite negative significand exponent, .finite _ factorSignificand factorExponent =>
    let product : Int := (significand * factorSignificand : Nat)
    ofDyadic negative (if negative then -product else product) (exponent + factorExponent)
  | .finite negative significand _, _ =>
    if significand == 0 then .notANumber else .infinite negative
  | other, _ => other

/-- Whether one integer multiple of a power of two is less than another. -/
def dyadicLess (left right : Int × Int) : Bool :=
  let exponent := min left.2 right.2
  left.1 * Int.pow 2 (left.2 - exponent).toNat < right.1 * Int.pow 2 (right.2 - exponent).toNat

/-- Whether two integer multiples of powers of two are the same number. -/
def dyadicEqual (left right : Int × Int) : Bool :=
  !dyadicLess left right && !dyadicLess right left

end Binary64

end TraceAutomata
