import TenantReporting.Binary64.Layout
import TenantReporting.Json.Basic
import TenantReporting.Text.Hex

/-!
# Printing JSON

One printer with the decisions of an output format in a record: which characters are escaped, how
items are separated and indented, and how numbers look. Stored documents are printed in ASCII,
answers in full Unicode without blanks.
-/

namespace TenantReporting.Json

/-- How an output format writes JSON. -/
structure Style where
  /-- Only printable ASCII characters stand for themselves. -/
  asciiOnly : Bool
  /-- What separates two items on a line. -/
  itemSeparator : String
  /-- What separates a key from its value. -/
  keySeparator : String
  /-- The items of lists and objects stand on lines of their own, indented by so many columns. -/
  indentation? : Option Nat
  /-- How numbers are written. -/
  numbers : Binary64.Layout

/-- Stored documents: one line, in ASCII, with a blank after each separator. -/
def storedStyle : Style where
  asciiOnly := true
  itemSeparator := ", "
  keySeparator := ": "
  indentation? := none
  numbers := Binary64.documentLayout

/-- Logged documents: in ASCII, one item on a line, indented by two columns. -/
def loggedStyle : Style :=
  { storedStyle with itemSeparator := ",", indentation? := some 2 }

/-- Answers that report an error: no blanks, full Unicode. -/
def errorStyle : Style where
  asciiOnly := false
  itemSeparator := ","
  keySeparator := ":"
  indentation? := none
  numbers := Binary64.documentLayout

/-- Answers that carry results: as for errors, but with bare exponents and without infinities. -/
def answerStyle : Style :=
  { errorStyle with numbers := Binary64.answerLayout }

/-- The escape of a character by its code, as a pair of surrogates where one unit does not
suffice. -/
def codeEscape (c : Char) : List Char :=
  if c.toNat < 0x10000 then '\\' :: 'u' :: Text.hexDigits 4 c.toNat
  else
    let offset := c.toNat - 0x10000
    '\\' :: 'u' :: Text.hexDigits 4 (0xD800 + offset / 0x400)
      ++ '\\' :: 'u' :: Text.hexDigits 4 (0xDC00 + offset % 0x400)

/-- A character inside JSON text. -/
def printCharacter (asciiOnly : Bool) (c : Char) : List Char :=
  if c == '"' || c == '\\' then ['\\', c]
  else if c == '\n' then ['\\', 'n']
  else if c == '\r' then ['\\', 'r']
  else if c == '\t' then ['\\', 't']
  else if c == '\x08' then ['\\', 'b']
  else if c == '\x0c' then ['\\', 'f']
  else if c.toNat < 0x20 || (asciiOnly && 0x7F ≤ c.toNat) then codeEscape c
  else [c]

/-- Text between quotation marks. -/
def printText (asciiOnly : Bool) (text : String) : List Char :=
  '"' :: text.toList.flatMap (printCharacter asciiOnly) ++ ['"']

/-- The start of a new line at the given depth, where the style asks for lines. -/
def Style.line (style : Style) (depth : Nat) : List Char :=
  match style.indentation? with
  | some width => '\n' :: List.replicate (width * depth) ' '
  | none => []

mutual

/-- The text of a value that stands at the given depth. -/
def printAt (style : Style) (depth : Nat) : Json → List Char
  | .null => "null".toList
  | .bool value => (if value then "true" else "false").toList
  | .integer value => (toString value).toList
  | .real value => (style.numbers.text value).toList
  | .text value => printText style.asciiOnly value
  | .list [] => ['[', ']']
  | .list (item :: items) =>
    '[' :: style.line (depth + 1) ++ printAt style (depth + 1) item
      ++ printItems style (depth + 1) items ++ style.line depth ++ [']']
  | .object [] => ['\x7b', '\x7d']
  | .object ((key, value) :: entries) =>
    '\x7b' :: style.line (depth + 1) ++ printText style.asciiOnly key ++ style.keySeparator.toList
      ++ printAt style (depth + 1) value ++ printEntries style (depth + 1) entries
      ++ style.line depth ++ ['\x7d']

/-- The items after the first one, each after a separator. -/
def printItems (style : Style) (depth : Nat) : List Json → List Char
  | [] => []
  | item :: items =>
    style.itemSeparator.toList ++ style.line depth ++ printAt style depth item
      ++ printItems style depth items

/-- The entries after the first one, each after a separator. -/
def printEntries (style : Style) (depth : Nat) : List (String × Json) → List Char
  | [] => []
  | (key, value) :: entries =>
    style.itemSeparator.toList ++ style.line depth ++ printText style.asciiOnly key
      ++ style.keySeparator.toList ++ printAt style depth value ++ printEntries style depth entries

end

/-- The text of a value. -/
def print (style : Style) (value : Json) : String :=
  String.ofList (printAt style 0 value)

end TenantReporting.Json
