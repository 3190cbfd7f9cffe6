import TenantReporting.Binary64.Shortest

/-!
# The text of a number

`Binary64.Layout` holds the decisions of an output format about numbers: where the point is
written out and where an exponent takes its place, and how exponents, infinities and the missing
number look. The digits themselves are always the fewest that identify the number.
-/

namespace TenantReporting.Binary64

/-- How an output format writes numbers. -/
structure Layout where
  /-- The least position of the point at which a number is written out. -/
  leastPoint : Int
  /-- The greatest position of the point at which a number is written out. -/
  greatestPoint : Int
  /-- An exponent carries a plus sign if it is not negative. -/
  signsExponent : Bool
  /-- The least number of digits of an exponent. -/
  exponentWidth : Nat
  /-- The text of the missing number. -/
  missing : String
  /-- The text of positive infinity. -/
  infinity : String

/-- A natural number with leading zeros up to the given width. -/
def padded (width n : Nat) : List Char :=
  let digits := Nat.toDigits 10 n
  List.replicate (width - digits.length) '0' ++ digits

/-- The exponent of a number in scientific notation. -/
def Layout.exponent (style : Layout) (exponent : Int) : List Char :=
  let sign := if exponent < 0 then ['-'] else if style.signsExponent then ['+'] else []
  'e' :: sign ++ padded style.exponentWidth exponent.natAbs

/-- A positive decimal that is written out, always with a digit on either side of the point. -/
def writtenOut (decimal : Decimal) : List Char :=
  let count := decimal.digits.length
  if decimal.point ≤ 0 then
    '0' :: '.' :: List.replicate (-decimal.point).toNat '0' ++ decimal.digits
  else if (count : Int) ≤ decimal.point then
    decimal.digits ++ List.replicate (decimal.point - count).toNat '0' ++ ['.', '0']
  else
    decimal.digits.take decimal.point.toNat ++ '.' :: decimal.digits.drop decimal.point.toNat

/-- A positive decimal in scientific notation. -/
def Layout.scientific (style : Layout) (decimal : Decimal) : List Char :=
  let fraction := decimal.digits.drop 1
  decimal.digits.take 1 ++ (if fraction.isEmpty then [] else '.' :: fraction)
    ++ style.exponent (decimal.point - 1)

/-- A positive decimal, written out where the format allows it. -/
def Layout.decimal (style : Layout) (decimal : Decimal) : List Char :=
  if style.leastPoint ≤ decimal.point ∧ decimal.point ≤ style.greatestPoint then
    writtenOut decimal
  else style.scientific decimal

/-- The text of a number. -/
def Layout.text (style : Layout) : Binary64 → String
  | .notANumber => style.missing
  | .infinite negative => if negative then "-" ++ style.infinity else style.infinity
  | .finite negative significand exponent =>
    let sign := if negative then ['-'] else []
    if significand = 0 then String.ofList (sign ++ ['0', '.', '0'])
    else String.ofList (sign ++ style.decimal (shortest significand exponent))

/-- Numbers as the text of a cell or of a message: written out from `0.0001` to below `10 ^ 16`,
otherwise with a signed exponent of at least two digits. -/
def cellLayout : Layout where
  leastPoint := -3
  greatestPoint := 16
  signsExponent := true
  exponentWidth := 2
  missing := "nan"
  infinity := "inf"

/-- Numbers in stored documents: as in cells, but with the names that documents use for infinity
and the missing number. -/
def documentLayout : Layout :=
  { cellLayout with missing := "NaN", infinity := "Infinity" }

/-- Numbers in answers: written out from `0.00001` to below `10 ^ 16`, otherwise with a bare
exponent. Answers have no infinity and no missing number. -/
def answerLayout : Layout where
  leastPoint := -4
  greatestPoint := 16
  signsExponent := false
  exponentWidth := 1
  missing := "null"
  infinity := "null"

end TenantReporting.Binary64
