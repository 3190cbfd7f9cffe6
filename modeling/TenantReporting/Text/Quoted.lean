import TenantReporting.Text.Hex
import TenantReporting.Text.Printable

/-!
# Quoted text

Text between quotation marks with escapes for everything that cannot be shown. Single quotation
marks are used unless the text contains one and no double quotation mark, so that at most one kind
of mark has to be escaped.
-/

namespace TenantReporting.Text

/-- The single quotation mark. -/
def apostrophe : Char := Char.ofNat 39

/-- The mark that surrounds a text: the double one exactly if the text has an apostrophe and no
double quotation mark. -/
def quotationMark (text : List Char) : Char :=
  if text.contains apostrophe && !text.contains '"' then '"' else apostrophe

/-- A character inside quoted text that is surrounded by `mark`. -/
def quotedCharacter (mark c : Char) : List Char :=
  if c == mark || c == '\\' then ['\\', c]
  else if c == '\n' then ['\\', 'n']
  else if c == '\r' then ['\\', 'r']
  else if c == '\t' then ['\\', 't']
  else if isPrintable c then [c]
  else if c.toNat < 0x100 then '\\' :: 'x' :: hexDigits 2 c.toNat
  else if c.toNat < 0x10000 then '\\' :: 'u' :: hexDigits 4 c.toNat
  else '\\' :: 'U' :: hexDigits 8 c.toNat

/-- The text between quotation marks. -/
def quoted (text : String) : String :=
  let mark := quotationMark text.toList
  String.ofList (mark :: text.toList.flatMap (quotedCharacter mark) ++ [mark])

/-- A byte inside a quoted byte string that is surrounded by `mark`. Bytes outside printable
ASCII are written in hexadecimal. -/
def quotedByte (mark : Char) (byte : UInt8) : List Char :=
  if byte.toNat < 0x80 then quotedCharacter mark (Char.ofNat byte.toNat)
  else '\\' :: 'x' :: hexDigits 2 byte.toNat

/-- The byte string between quotation marks, marked as bytes by a leading letter. -/
def quotedBytes (bytes : List UInt8) : String :=
  let mark := quotationMark (bytes.map fun byte ↦ Char.ofNat byte.toNat)
  String.ofList ('b' :: mark :: bytes.flatMap (quotedByte mark) ++ [mark])

end TenantReporting.Text
