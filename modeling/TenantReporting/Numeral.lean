import TenantReporting.Binary64.Basic
import TenantReporting.Text.Blank
import TenantReporting.Text.DecimalDigit
import TenantReporting.Text.Quoted

/-!
# Numerals

Reading integers and numbers from text that people and environments supply, and writing integers.
Numerals may stand between blanks, have a sign, use the decimal digits of any script, and group
their digits by single underscores. Integers of more than `maxDigits` digits are neither read nor
written.
-/

namespace TenantReporting.Numeral

/-- Why a text is not a numeral, or why an integer has none. -/
inductive Fault where
  | malformedInteger (text : String)
  | malformedReal (text : String)
  | tooManyDigits (count : Nat)
  | tooLong
deriving DecidableEq, Repr

/-- The greatest number of digits that an integer may be read from or written with. -/
def maxDigits : Nat := 4300

/-- The wording of a fault. An integer that cannot be read is quoted in at most 200 characters. -/
def Fault.message : Fault → String
  | .malformedInteger text =>
    "invalid literal for int() with base 10: " ++ String.ofList ((Text.quoted text).toList.take 200)
  | .malformedReal text => "could not convert string to float: " ++ Text.quoted text
  | .tooManyDigits count =>
    s!"Exceeds the limit ({maxDigits} digits) for integer string conversion: "
      ++ s!"value has {count} digits; "
      ++ "use sys.set_int_max_str_digits() to increase the limit"
  | .tooLong =>
    s!"Exceeds the limit ({maxDigits} digits) for integer string conversion; "
      ++ "use sys.set_int_max_str_digits() to increase the limit"

/-- The number that a list of decimal digits stands for. -/
def natOfDigits (digits : List Nat) : Nat :=
  digits.foldl (fun value digit ↦ 10 * value + digit) 0

/-- Splits a sign from the front of a text: whether it is a minus sign, and the rest. -/
def splitSign : List Char → Bool × List Char
  | '-' :: rest => (true, rest)
  | '+' :: rest => (false, rest)
  | text => (false, text)

/-- The character is a decimal digit of any script or an underscore. -/
def isDigitOrUnderscore (c : Char) : Bool :=
  c == '_' || (Text.decimalDigit? c).isSome

/-- Every underscore stands between two digits. -/
def groupsDigits (run : List Char) : Bool :=
  let isolated (pair : Char × Char) : Bool := !(pair.1 == '_' && pair.2 == '_')
  run.head? != some '_' && run.getLast? != some '_' && (run.zip (run.drop 1)).all isolated

/-- The integer that a text writes. -/
def integer (text : String) : Except Fault Int :=
  let (negative, body) := splitSign (text.toList.dropWhile Text.isNumeralBlank)
  let run := body.takeWhile isDigitOrUnderscore
  let digits := run.filterMap Text.decimalDigit?
  if run.isEmpty ∨ !groupsDigits run then .error (.malformedInteger text)
  else if maxDigits < digits.length then .error (.tooManyDigits digits.length)
  else if !(body.dropWhile isDigitOrUnderscore).all Text.isNumeralBlank then
    .error (.malformedInteger text)
  else
    let magnitude : Int := natOfDigits digits
    .ok (if negative then -magnitude else magnitude)

/-- The least natural number with too many digits. It is irreducible, so that no proof computes it
by accident. -/
@[irreducible] def leastTooLong : Nat := Nat.pow 10 maxDigits

/-- The integer does not have too many digits. -/
def isWritable (value : Int) : Bool :=
  decide (value.natAbs < leastTooLong)

/-- The decimal form of an integer. -/
def written (value : Int) : Except Fault String :=
  if isWritable value then .ok (toString value) else .error .tooLong

/-- The text without underscores, provided that each of them stands between two digits. -/
def ungrouped? : Option Char → List Char → Option (List Char)
  | _, [] => some []
  | before, '_' :: rest =>
    let isDigit (c? : Option Char) : Bool := (c?.bind Text.decimalDigit?).isSome
    if isDigit before && isDigit rest.head? then ungrouped? (some '_') rest else none
  | _, c :: rest => (ungrouped? (some c) rest).map (c :: ·)

/-- The digits at the front of a text, and the rest. -/
def splitDigits (text : List Char) : List Nat × List Char :=
  let isDigit (c : Char) : Bool := (Text.decimalDigit? c).isSome
  ((text.takeWhile isDigit).filterMap Text.decimalDigit?, text.dropWhile isDigit)

/-- The exponent that makes up a text, zero if the text is empty. -/
def exponent? : List Char → Option Int
  | [] => some 0
  | mark :: rest =>
    let (negative, body) := splitSign rest
    let (digits, after) := splitDigits body
    if (mark == 'e' || mark == 'E') && !digits.isEmpty && after.isEmpty then
      let magnitude : Int := natOfDigits digits
      some (if negative then -magnitude else magnitude)
    else none

/-- The number that digits with an optional point and exponent write. -/
def decimal? (negative : Bool) (text : List Char) : Option Binary64 :=
  let (whole, rest) := splitDigits text
  let (fraction, rest) := match rest with
    | '.' :: rest => splitDigits rest
    | rest => ([], rest)
  if whole.isEmpty && fraction.isEmpty then none
  else (exponent? rest).map fun exponent ↦
    .ofDecimal negative (natOfDigits (whole ++ fraction)) (exponent - fraction.length)

/-- The number that an unsigned text writes. -/
def magnitude? (negative : Bool) (text : List Char) : Option Binary64 :=
  let word := String.ofList (text.map Char.toLower)
  if word == "inf" || word == "infinity" then some (.infinite negative)
  else if word == "nan" then some .notANumber
  else decimal? negative text

/-- The number that a text writes. -/
def real (text : String) : Except Fault Binary64 :=
  let number? := do
    let body ← ungrouped? none (Text.trimBoth Text.isNumeralBlank text.toList)
    let (negative, unsigned) := splitSign body
    magnitude? negative unsigned
  match number? with
  | some number => .ok number
  | none => .error (.malformedReal text)

end TenantReporting.Numeral
