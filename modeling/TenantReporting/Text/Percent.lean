import TenantReporting.Text.Hex
import TenantReporting.Text.Utf8

/-!
# Percent encoding

Text in which a percent sign and two hexadecimal digits stand for a byte, and lists of keys and
values in this encoding.
-/

namespace TenantReporting.Text

/-- The bytes of a run of ASCII characters. A percent sign that is not followed by two hexadecimal
digits stands for itself. -/
def percentBytes : List Char → List UInt8
  | [] => []
  | '%' :: high :: low :: rest =>
    match hexValue? high, hexValue? low with
    | some upper, some lower => UInt8.ofNat (16 * upper + lower) :: percentBytes rest
    | _, _ => 37 :: percentBytes (high :: low :: rest)
  | c :: rest => UInt8.ofNat c.toNat :: percentBytes rest

/-- The text of a run of ASCII characters, given in reverse. -/
def decodedRun (run : List Char) : List Char :=
  (decodeUtf8 (percentBytes run.reverse)).map fun c? ↦ c?.getD '\uFFFD'

/-- Decodes a text whose last ASCII characters, in reverse, are `run`. Other characters stand for
themselves and end the character that is being decoded. -/
def percentDecodedAfter (run : List Char) : List Char → List Char
  | [] => decodedRun run
  | c :: rest =>
    if c.toNat < 0x80 then percentDecodedAfter (c :: run) rest
    else decodedRun run ++ c :: percentDecodedAfter [] rest

/-- The text that an encoded text stands for. -/
def percentDecoded (text : List Char) : String :=
  String.ofList (percentDecodedAfter [] text)

/-- The pieces of a text between the occurrences of a separator; `current` is what has been read of
the first one, in reverse. -/
def piecesAfter (separator : Char) (current : List Char) : List Char → List (List Char)
  | [] => [current.reverse]
  | c :: rest =>
    if c == separator then current.reverse :: piecesAfter separator [] rest
    else piecesAfter separator (c :: current) rest

/-- The pieces of a text between the occurrences of a separator. -/
def pieces (separator : Char) (text : List Char) : List (List Char) :=
  piecesAfter separator [] text

/-- The text of a key or value, in which a plus sign stands for a blank. -/
def formText (text : List Char) : String :=
  percentDecoded (text.map fun c ↦ if c == '+' then ' ' else c)

/-- The key and value of one piece of a form. A piece without a value is left out unless blank
values are kept. -/
def formPair? (keepsBlanks : Bool) (piece : List Char) : Option (String × String) :=
  let key := piece.takeWhile (· != '=')
  let value := (piece.dropWhile (· != '=')).drop 1
  if piece.isEmpty || (value.isEmpty && !keepsBlanks) then none
  else some (formText key, formText value)

/-- The keys and values of a form in their order. -/
def formPairs (keepsBlanks : Bool) (text : List Char) : List (String × String) :=
  (pieces '&' text).filterMap (formPair? keepsBlanks)

end TenantReporting.Text
