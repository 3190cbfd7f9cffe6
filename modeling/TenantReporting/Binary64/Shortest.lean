import TenantReporting.Binary64.Basic

/-!
# The fewest digits that identify a number

A finite positive number of the format is the nearest one to every decimal in its rounding
interval, whose ends lie halfway to its neighbours. `shortest` finds a decimal with the fewest
significant digits in that interval, and of several the nearest to the number itself.
-/

namespace TenantReporting

/-- A positive decimal fraction: the point stands `point` places after the start of the digits. -/
structure Decimal where
  digits : List Char
  point : Int
deriving DecidableEq, Repr

namespace Binary64

/-- The position of the decimal point of a positive fraction: the fraction is at least ten to the
power of one less and below ten to this power. -/
def pointOf (numerator denominator : Nat) : Int :=
  if denominator ≤ numerator then digitCount (numerator / denominator)
  else
    let places := digitCount (denominator / numerator)
    let top : Int := if denominator ≤ numerator * Nat.pow 10 (places - 1) then 2 else 1
    top - places

/-- The number of the format nearest to `digits` units of the last place, where the first place is
the one before position `point`, written with `count` digits. -/
def ofPlaces (digits count : Nat) (point : Int) : Binary64 :=
  ofDecimal false digits (point - count)

/-- The two decimals with at most `count` significant digits around a positive fraction, the nearer
one first and the even one of two equally near, as the number of units of their last place. -/
def neighbouringPlaces (numerator denominator : Nat) (point : Int) (count : Nat) : List Nat :=
  let (top, bottom) :=
    let places := (count : Int) - point
    if 0 ≤ places then (numerator * Nat.pow 10 places.toNat, denominator)
    else (numerator, denominator * Nat.pow 10 (-places).toNat)
  let nearest := roundedQuotient top bottom
  [nearest, if nearest = top / bottom then nearest + 1 else nearest - 1]

/-- The least number of digits, counting up from `count` for at most `fuel` steps, at which one of
the decimals around a number reads back, with the units of its last place. -/
def shortestPlaces (number : Binary64) (numerator denominator : Nat) (point : Int) :
    Nat → Nat → Option (Nat × Nat)
  | _, 0 => none
  | count, fuel + 1 =>
    let candidates := neighbouringPlaces numerator denominator point count
    match candidates.find? fun units ↦ ofPlaces units count point = number with
    | some units => some (units, count)
    | none => shortestPlaces number numerator denominator point (count + 1) fuel

/-- The decimal of a positive finite number with the fewest digits that reads back as it. Seventeen
digits always do. -/
def shortest (significand : Nat) (exponent : Int) : Decimal :=
  let (numerator, denominator) := scaled significand 1 (-exponent)
  let point := pointOf numerator denominator
  let (units, count) :=
    (shortestPlaces (.finite false significand exponent) numerator denominator point 1 17).getD
      (0, 1)
  let digits := Nat.toDigits 10 units
  { digits := (digits.reverse.dropWhile (· == '0')).reverse
    point := point + digits.length - count }

end Binary64

end TenantReporting
