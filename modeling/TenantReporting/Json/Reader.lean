import TenantReporting.Json.Basic
import TenantReporting.Numeral
import TenantReporting.Text.Hex

/-!
# Reading JSON

`Json.read` reads JSON text, extended by the names `NaN`, `Infinity` and `-Infinity`. Of two
entries of an object with the same key the later value is kept at the earlier place. A text that
cannot be read is answered by the first problem and the position where it shows.
-/

namespace TenantReporting.Json

/-- What is wrong with a text that should be JSON. -/
inductive Problem where
  | expectedValue
  | expectedComma
  | expectedColon
  | expectedName
  | unterminatedText
  | controlCharacter
  | malformedEscape
  | malformedCodeEscape
  | extraText
  | byteOrderMark
  | tooManyDigits (count : Nat)
deriving DecidableEq, Repr

/-- The wording of a problem. -/
def Problem.message : Problem → String
  | .expectedValue => "Expecting value"
  | .expectedComma => "Expecting ',' delimiter"
  | .expectedColon => "Expecting ':' delimiter"
  | .expectedName => "Expecting property name enclosed in double quotes"
  | .unterminatedText => "Unterminated string starting at"
  | .controlCharacter => "Invalid control character at"
  | .malformedEscape => "Invalid \\escape"
  | .malformedCodeEscape => "Invalid \\uXXXX escape"
  | .extraText => "Extra data"
  | .byteOrderMark => "Unexpected UTF-8 BOM (decode using utf-8-sig)"
  | .tooManyDigits count => (Numeral.Fault.tooManyDigits count).message

/-- A problem and the number of characters before the place where it shows. -/
structure ReadFault where
  problem : Problem
  position : Nat
deriving DecidableEq, Repr

/-- A problem and the text from the place where it shows. -/
structure Stop where
  problem : Problem
  rest : List Char

/-- A value read from the front of a text, and the text after it. -/
abbrev Reading (α : Type) := Except Stop (α × List Char)

/-- The blank characters of JSON. -/
def isJsonBlank (c : Char) : Bool :=
  c == ' ' || c == '\t' || c == '\n' || c == '\r'

/-- The text after the blanks at its front. -/
def skipBlanks (source : List Char) : List Char :=
  source.dropWhile isJsonBlank

/-- The code that four hexadecimal digits write, and the text after them, which is not empty. -/
def codeUnit? : List Char → Option (Nat × List Char)
  | a :: b :: c :: d :: next :: rest => do
    let value := 16 * (16 * (16 * (← Text.hexValue? a) + (← Text.hexValue? b))
      + (← Text.hexValue? c)) + (← Text.hexValue? d)
    return (value, next :: rest)
  | _ => none

/-- Reads a character written by its code; `source` begins with the escape's letter. Two surrogates
in a row write one character, a surrogate of its own is replaced. -/
def readCode (source : List Char) : Reading Char :=
  match codeUnit? (source.drop 1) with
  | none => .error ⟨.malformedCodeEscape, source⟩
  | some (high, rest) =>
    let alone : Reading Char :=
      .ok (if 0xD800 ≤ high ∧ high ≤ 0xDFFF then '\uFFFD' else Char.ofNat high, rest)
    match rest with
    | '\\' :: 'u' :: after =>
      if 0xD800 ≤ high ∧ high ≤ 0xDBFF ∧ 5 ≤ after.length then
        match codeUnit? after with
        | none => .error ⟨.malformedCodeEscape, 'u' :: after⟩
        | some (low, rest) =>
          if 0xDC00 ≤ low ∧ low ≤ 0xDFFF then
            .ok (Char.ofNat (0x10000 + (high - 0xD800) * 0x400 + (low - 0xDC00)), rest)
          else alone
      else alone
    | _ => alone

/-- Reads an escape; `source` begins with the backslash, and `opening` is the text from the opening
mark. -/
def readEscape (opening source : List Char) : Reading Char :=
  match source.drop 1 with
  | [] => .error ⟨.unterminatedText, opening⟩
  | '"' :: rest => .ok ('"', rest)
  | '\\' :: rest => .ok ('\\', rest)
  | '/' :: rest => .ok ('/', rest)
  | 'b' :: rest => .ok ('\x08', rest)
  | 'f' :: rest => .ok ('\x0c', rest)
  | 'n' :: rest => .ok ('\n', rest)
  | 'r' :: rest => .ok ('\r', rest)
  | 't' :: rest => .ok ('\t', rest)
  | 'u' :: rest => readCode ('u' :: rest)
  | _ :: _ => .error ⟨.malformedEscape, source⟩

/-- Reads text up to its closing mark; `opening` is the text from the opening mark and `read` what
has been read since, in reverse. -/
def readText (opening : List Char) : Nat → List Char → List Char → Reading String
  | 0, _, _ => .error ⟨.unterminatedText, opening⟩
  | _ + 1, _, [] => .error ⟨.unterminatedText, opening⟩
  | fuel + 1, read, c :: rest =>
    if c == '"' then .ok (String.ofList read.reverse, rest)
    else if c == '\\' then
      match readEscape opening (c :: rest) with
      | .error stop => .error stop
      | .ok (c, rest) => readText opening fuel (c :: read) rest
    else if c.toNat < 0x20 then .error ⟨.controlCharacter, c :: rest⟩
    else readText opening fuel (c :: read) rest

/-- The digits at the front of a text, and the text after them. -/
def splitDecimals (source : List Char) : List Char × List Char :=
  (source.takeWhile Char.isDigit, source.dropWhile Char.isDigit)

/-- The number that a list of ASCII digits writes. -/
def decimalValue (digits : List Char) : Nat :=
  Numeral.natOfDigits (digits.map fun c ↦ c.toNat - 48)

/-- The digits of a fraction at the front of a text, and the text after them. -/
def splitFraction : List Char → List Char × List Char
  | '.' :: rest =>
    let (digits, after) := splitDecimals rest
    if digits.isEmpty then ([], '.' :: rest) else (digits, after)
  | source => ([], source)

/-- The exponent at the front of a text, and the text after it. -/
def splitExponent : List Char → Option Int × List Char
  | [] => (none, [])
  | mark :: rest =>
    let (negative, unsigned) := Numeral.splitSign rest
    let (digits, after) := splitDecimals unsigned
    if (mark == 'e' || mark == 'E') && !digits.isEmpty then
      let magnitude : Int := decimalValue digits
      (some (if negative then -magnitude else magnitude), after)
    else (none, mark :: rest)

/-- Reads a number; `source` is the text from its first character. -/
def readNumber (source : List Char) : Reading Json :=
  let negative := source.head? == some '-'
  let unsigned := if negative then source.drop 1 else source
  let (whole, rest) := match unsigned with
    | '0' :: rest => (['0'], rest)
    | unsigned => splitDecimals unsigned
  if whole.isEmpty then .error ⟨.expectedValue, source⟩
  else
    let (fraction, afterFraction) := splitFraction rest
    let (exponent?, after) := splitExponent afterFraction
    if fraction.isEmpty && exponent?.isNone then
      if Numeral.maxDigits < whole.length then .error ⟨.tooManyDigits whole.length, source⟩
      else
        let magnitude : Int := decimalValue whole
        .ok (.integer (if negative then -magnitude else magnitude), after)
    else
      let exponent := exponent?.getD 0 - fraction.length
      .ok (.real (.ofDecimal negative (decimalValue (whole ++ fraction)) exponent), after)

/-- The values that are written by a name. -/
def namedValues : List (List Char × Json) :=
  [("null".toList, .null), ("true".toList, .bool true), ("false".toList, .bool false),
   ("NaN".toList, .real .notANumber), ("Infinity".toList, .real (.infinite false)),
   ("-Infinity".toList, .real (.infinite true))]

/-- Reads a value that is neither text, list nor object. -/
def readScalar (source : List Char) : Reading Json :=
  match namedValues.find? fun named ↦ named.1.isPrefixOf source with
  | some (name, value) => .ok (value, source.drop name.length)
  | none => readNumber source

mutual

/-- Reads a value. -/
def readValue : Nat → List Char → Reading Json
  | 0, source => .error ⟨.expectedValue, source⟩
  | fuel + 1, source =>
    match source with
    | '"' :: rest =>
      match readText source rest.length.succ [] rest with
      | .error stop => .error stop
      | .ok (value, rest) => .ok (.text value, rest)
    | '[' :: rest =>
      match skipBlanks rest with
      | ']' :: rest => .ok (.list [], rest)
      | rest => readItems fuel [] rest
    | '{' :: rest =>
      match skipBlanks rest with
      | '}' :: rest => .ok (.object [], rest)
      | rest => readEntries fuel [] rest
    | source => readScalar source

/-- Reads the items of a list up to its closing bracket; `read` holds those before, in reverse. -/
def readItems : Nat → List Json → List Char → Reading Json
  | 0, _, source => .error ⟨.expectedValue, source⟩
  | fuel + 1, read, source =>
    match readValue fuel source with
    | .error stop => .error stop
    | .ok (item, rest) =>
      match skipBlanks rest with
      | ']' :: rest => .ok (.list (item :: read).reverse, rest)
      | ',' :: rest => readItems fuel (item :: read) (skipBlanks rest)
      | rest => .error ⟨.expectedComma, rest⟩

/-- Reads the entries of an object up to its closing brace; `read` holds those before. -/
def readEntries : Nat → List (String × Json) → List Char → Reading Json
  | 0, _, source => .error ⟨.expectedName, source⟩
  | fuel + 1, read, source =>
    match source with
    | '"' :: rest =>
      match readText source rest.length.succ [] rest with
      | .error stop => .error stop
      | .ok (key, rest) =>
        match skipBlanks rest with
        | ':' :: rest =>
          match readValue fuel (skipBlanks rest) with
          | .error stop => .error stop
          | .ok (value, rest) =>
            match skipBlanks rest with
            | '}' :: rest => .ok (.object (put read key value), rest)
            | ',' :: rest => readEntries fuel (put read key value) (skipBlanks rest)
            | rest => .error ⟨.expectedComma, rest⟩
        | rest => .error ⟨.expectedColon, rest⟩
    | source => .error ⟨.expectedName, source⟩

end

/-- Reads a whole text as one value. Every step of the reader takes at least one character, so the
length of the text bounds their number. -/
def readAll (source : List Char) : Except Stop Json := do
  let (value, rest) ← readValue (2 * source.length + 2) (skipBlanks source)
  match skipBlanks rest with
  | [] => .ok value
  | rest => .error ⟨.extraText, rest⟩

/-- The value that a JSON text writes, where the text has been decoded already. -/
def readDecoded (source : String) : Except ReadFault Json :=
  match readAll source.toList with
  | .ok value => .ok value
  | .error stop => .error ⟨stop.problem, source.toList.length - stop.rest.length⟩

/-- The value that a JSON text writes. A mark of the text's encoding does not belong to it. -/
def read (source : String) : Except ReadFault Json :=
  if source.toList.head? == some '\uFEFF' then .error ⟨.byteOrderMark, 0⟩
  else readDecoded source

end TenantReporting.Json
