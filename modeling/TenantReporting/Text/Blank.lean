/-!
# White space

Two classes of blank characters and the operations on text that depend on them. `isBlank` is the
class that separates words and surrounds names; `isNumeralBlank` is the slightly smaller class
that may surround a numeral, which leaves out the four information separators.
-/

namespace TenantReporting.Text

/-- The four information separators `U+001C` to `U+001F`. -/
def isInformationSeparator (c : Char) : Bool :=
  28 ≤ c.toNat && c.toNat ≤ 31

/-- White space as the Unicode standard lists it. It may surround a numeral. -/
def isNumeralBlank (c : Char) : Bool :=
  (9 ≤ c.toNat && c.toNat ≤ 13) || c.toNat == 0x20 || c.toNat == 0x85 || c.toNat == 0xA0
    || c.toNat == 0x1680 || (0x2000 ≤ c.toNat && c.toNat ≤ 0x200A)
    || c.toNat == 0x2028 || c.toNat == 0x2029 || c.toNat == 0x202F
    || c.toNat == 0x205F || c.toNat == 0x3000

/-- White space together with the information separators. It separates words and surrounds
names. -/
def isBlank (c : Char) : Bool :=
  isNumeralBlank c || isInformationSeparator c

/-- The list without the longest run of elements satisfying `p` at either end. -/
def trimBoth (p : Char → Bool) (text : List Char) : List Char :=
  ((text.dropWhile p).reverse.dropWhile p).reverse

/-- The text without blank characters at either end. -/
def strip (text : String) : String :=
  String.ofList (trimBoth isBlank text.toList)

/-- The maximal runs of nonblank characters that remain when `current`, in reverse, has already
been read of the first one. -/
def wordsAfter (current : List Char) : List Char → List (List Char)
  | [] => if current.isEmpty then [] else [current.reverse]
  | c :: rest =>
    if isBlank c then
      if current.isEmpty then wordsAfter [] rest else current.reverse :: wordsAfter [] rest
    else wordsAfter (c :: current) rest

/-- The maximal runs of nonblank characters, from left to right. -/
def words (text : List Char) : List (List Char) :=
  wordsAfter [] text

/-- The text with single spaces between its words and none around them. -/
def collapse (text : String) : String :=
  String.ofList ([' '].intercalate (words text.toList))

end TenantReporting.Text
