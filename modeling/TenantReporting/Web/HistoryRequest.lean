import TenantReporting.Numeral
import TenantReporting.Shape.Reader
import TenantReporting.Text.Percent

/-!
# Requests for the history of executions

The query of such a request may say how many entries are wanted, and that only those of failures
are. Of a field that is given several times the last value counts.
-/

namespace TenantReporting.Web

open Shape

/-- What a request for the history asks for. -/
structure HistoryRequest where
  limit : Int := 50
  failuresOnly : Bool := false
deriving Repr

namespace HistoryRequest

/-- The greatest number of entries that can be asked for. -/
def greatestLimit : Nat := 500

/-- The integer that a text writes plainly: in decimal digits, of which the first is zero only if it
stands alone, after a minus sign if it is negative. The sign counts towards the greatest length. -/
def plainInteger (text : List Char) : Except Flaw Int :=
  let (negative, unsigned) :=
    match text with
    | '-' :: rest => (true, rest)
    | _ => (false, text)
  let digits := unsigned.takeWhile Char.isDigit
  if digits.isEmpty ∨ digits.head? = some '0' ∧ digits.length ≠ 1 then .error .notInteger
  else if Numeral.maxDigits < text.length - (unsigned.length - digits.length) then
    .error .integerTooLong
  else if digits.length ≠ unsigned.length then .error .notInteger
  else
    let magnitude : Int := Numeral.natOfDigits (digits.map fun c ↦ c.toNat - 48)
    .ok (if negative then -magnitude else magnitude)

/-- The text without a plus sign at its front, which must not stand before a minus sign. -/
def withoutPlus? : List Char → Option (List Char)
  | '+' :: '-' :: _ => none
  | '+' :: rest => some rest
  | text => some text

/-- The text without leading zeros, among which underscores do not count. A zero before a point
stays, and so does the last character of a text of zeros. What follows the zeros may be negative. -/
def withoutLeadingZeros? (text : List Char) : Option (List Char) :=
  match text with
  | '0' :: _ =>
    let isPadding (c : Char) : Bool := c == '0' || c == '_'
    let zeros := text.takeWhile isPadding
    match text.dropWhile isPadding with
    | [] => some (zeros.drop (zeros.length - 1))
    | '.' :: rest => some (zeros.drop (zeros.length - 1) ++ '.' :: rest)
    | c :: rest => if c.isDigit || c == '-' then some (c :: rest) else none
  | c :: _ => if c.isDigit || c == '-' then some text else none
  | [] => none

/-- The text without a fraction that consists of zeros, of which there is at least one. -/
def withoutZeroFraction (text : List Char) : List Char :=
  match text.dropWhile (· != '.') with
  | _ :: '0' :: zeros => if zeros.all (· == '0') then text.takeWhile (· != '.') else text
  | _ => text

/-- The text without its underscores, provided that they group what stands around them. -/
def withoutGrouping (text : List Char) : List Char :=
  if Numeral.groupsDigits text then text.filter (· != '_') else text

/-- The plain form of an integer that is written with blanks around it, a plus sign, leading zeros,
a fraction of zeros or groups of digits. -/
def plainForm? (text : List Char) : Option (List Char) := do
  let unsigned ← withoutPlus? (Text.trimBoth Text.isNumeralBlank text)
  let body ← withoutLeadingZeros? unsigned
  return withoutGrouping (withoutZeroFraction body)

/-- The integer that a text writes, plainly or not. -/
def integerOf (text : List Char) : Except Flaw Int :=
  match plainInteger text with
  | .error .notInteger =>
    match plainForm? text with
    | some plain => plainInteger plain
    | none => .error .notInteger
  | result => result

/-- Reads an integer. -/
def integer : Reader Int := fun path value ↦
  match integerOf value.givenText.toList with
  | .ok result => .accepted result
  | .error flaw => refuse flaw path value

/-- Reads a number of entries. -/
def limitReader : Reader Int := fun path value ↦
  match integer path value with
  | .refused defects => .refused defects
  | .accepted limit =>
    if limit < 1 then refuse (.below 1) path value
    else if greatestLimit < limit then refuse (.above greatestLimit) path value
    else .accepted limit

/-- The words for yes. -/
def affirmations : List String :=
  ["1", "t", "y", "on", "yes", "true"]

/-- The words for no. -/
def denials : List String :=
  ["0", "f", "n", "no", "off", "false"]

/-- Reads a word for yes or no. -/
def flag : Reader Bool := fun path value ↦
  let word := String.ofList (value.givenText.toList.map Char.toLower)
  if affirmations.contains word then .accepted true
  else if denials.contains word then .accepted false
  else refuse .notBoolean path value

/-- The last value of each field in a query, at the place of its first one. Each byte of a query
counts as one character. -/
def fields (query : List UInt8) : List (String × Json) :=
  (Text.formPairs true (query.map fun byte ↦ Char.ofNat byte.toNat)).foldl
    (fun fields pair ↦ Json.put fields pair.1 (.text pair.2)) []

/-- Reads the query of a request. -/
def ofQuery (query : List UInt8) : Except (List Defect) HistoryRequest :=
  let scope : Scope := ⟨[.key "query"], fields query⟩
  let request :=
    HistoryRequest.mk <$> scope.optional "limit" limitReader 50
      <*> scope.optional "failed_only" flag false
  request.toExcept

end HistoryRequest

end TenantReporting.Web
