/-!
# Binary floating-point numbers

The numbers of the 64-bit binary format as exact dyadic fractions. Conversions from integers and
decimals round to the nearest number of the format and, halfway, to the even significand; they are
computed in exact arithmetic on natural numbers.
-/

namespace TenantReporting

/-- A number of the 64-bit binary format. A finite number stands for the significand times two to
the exponent. Numbers built by this module have a significand below `2 ^ 53` and an exponent of at
least `-1074`, and the significand is below `2 ^ 52` only if the exponent is `-1074`. -/
inductive Binary64 where
  | notANumber
  | infinite (negative : Bool)
  | finite (negative : Bool) (significand : Nat) (exponent : Int)
deriving DecidableEq, Inhabited, Repr

namespace Binary64

/-- The least exponent of a finite number. -/
def leastExponent : Int := -1074

/-- The greatest exponent of a finite number. -/
def greatestExponent : Int := 971

/-- Zero without a sign. -/
def zero : Binary64 := .finite false 0 leastExponent

/-- The natural number nearest to a quotient, and the even one halfway between two. -/
def roundedQuotient (numerator denominator : Nat) : Nat :=
  let quotient := numerator / denominator
  let twice := 2 * (numerator % denominator)
  if twice < denominator ∨ (twice = denominator ∧ quotient % 2 = 0) then quotient
  else quotient + 1

/-- The numerator and denominator of a fraction divided by two to the exponent. -/
def scaled (numerator denominator : Nat) (exponent : Int) : Nat × Nat :=
  if 0 ≤ exponent then (numerator, denominator * Nat.pow 2 exponent.toNat)
  else (numerator * Nat.pow 2 (-exponent).toNat, denominator)

/-- The exponent at which a positive fraction has a significand of 53 bits, or the least exponent
if that one is greater. -/
def exponentOf (numerator denominator : Nat) : Int :=
  let estimate : Int := (numerator.log2 : Int) - (denominator.log2 : Int) - 52
  let (top, bottom) := scaled numerator denominator estimate
  max leastExponent (if top / bottom < Nat.pow 2 52 then estimate - 1 else estimate)

/-- The number of the format nearest to a fraction with positive denominator. -/
def ofFraction (negative : Bool) (numerator denominator : Nat) : Binary64 :=
  if numerator = 0 then .finite negative 0 leastExponent
  else
    let exponent := exponentOf numerator denominator
    let (top, bottom) := scaled numerator denominator exponent
    let significand := roundedQuotient top bottom
    let (significand, exponent) :=
      if significand < Nat.pow 2 53 then (significand, exponent) else (Nat.pow 2 52, exponent + 1)
    if greatestExponent < exponent then .infinite negative
    else .finite negative significand exponent

/-- The number of decimal digits of a natural number. -/
def digitCount (n : Nat) : Nat :=
  (Nat.toDigits 10 n).length

/-- The number of the format nearest to `digits` times ten to the exponent. Decimals far outside
the range of the format are decided without writing them out. -/
def ofDecimal (negative : Bool) (digits : Nat) (exponent : Int) : Binary64 :=
  let magnitude := (digitCount digits : Int) + exponent
  if digits = 0 ∨ magnitude < -330 then .finite negative 0 leastExponent
  else if 310 < magnitude then .infinite negative
  else if 0 ≤ exponent then ofFraction negative (digits * Nat.pow 10 exponent.toNat) 1
  else ofFraction negative digits (Nat.pow 10 (-exponent).toNat)

/-- The number of the format nearest to an integer. -/
def ofInt (n : Int) : Binary64 :=
  ofFraction (n < 0) n.natAbs 1

/-- The number is below zero. -/
def isBelowZero : Binary64 → Bool
  | .notANumber => false
  | .infinite negative => negative
  | .finite negative significand _ => negative && significand != 0

/-- The number is zero of either sign. -/
def isZero : Binary64 → Bool
  | .finite _ 0 _ => true
  | _ => false

/-- The number is finite. -/
def isFinite : Binary64 → Bool
  | .finite .. => true
  | _ => false

/-- The integer that a number is equal to. -/
def toInt? : Binary64 → Option Int
  | .finite negative significand exponent =>
    let withSign (magnitude : Nat) : Int := if negative then -magnitude else magnitude
    if 0 ≤ exponent then some (withSign (significand * Nat.pow 2 exponent.toNat))
    else
      let unit := Nat.pow 2 (-exponent).toNat
      if significand % unit = 0 then some (withSign (significand / unit)) else none
  | _ => none

end Binary64

end TenantReporting
