import TenantReporting.Text.Utf8

/-!
# Encodings of text

Text may arrive in units of one, two or four bytes. Which of them is used shows in a mark at the
beginning or, if the text begins with an ASCII character, in the zero bytes around that character.
Surrogates that are no part of a character are kept, so what arrives is decoded to codes first.
-/

namespace TenantReporting.Text

/-- An encoding by the size of its units; in the larger ones the byte with the high bits comes first
or last. -/
inductive Encoding where
  | bytes
  | pairs (highFirst : Bool)
  | quadruples (highFirst : Bool)
deriving DecidableEq, Repr

/-- The encoding that shows in the first bytes of a text without a mark. -/
def Encoding.ofZeros : List UInt8 → Encoding
  | [0, _] => .pairs true
  | [_, 0] => .pairs false
  | 0 :: 0 :: _ :: _ :: _ => .quadruples true
  | 0 :: _ :: _ :: _ :: _ => .pairs true
  | _ :: 0 :: 0 :: 0 :: _ => .quadruples false
  | _ :: 0 :: _ :: _ :: _ => .pairs false
  | _ => .bytes

/-- The encoding of a text, and its bytes after a mark. -/
def Encoding.detect : List UInt8 → Encoding × List UInt8
  | 0x00 :: 0x00 :: 0xFE :: 0xFF :: rest => (.quadruples true, rest)
  | 0xFF :: 0xFE :: 0x00 :: 0x00 :: rest => (.quadruples false, rest)
  | 0xFE :: 0xFF :: rest => (.pairs true, rest)
  | 0xFF :: 0xFE :: rest => (.pairs false, rest)
  | 0xEF :: 0xBB :: 0xBF :: rest => (.bytes, rest)
  | source => (Encoding.ofZeros source, source)

/-- The numbers that pairs of bytes write. -/
def pairUnits? (highFirst : Bool) : List UInt8 → Option (List Nat)
  | [] => some []
  | [_] => none
  | a :: b :: rest =>
    let unit := if highFirst then a.toNat * 0x100 + b.toNat else b.toNat * 0x100 + a.toNat
    (pairUnits? highFirst rest).map (unit :: ·)

/-- The code is one of those that begin a pair of surrogates. -/
def isHighSurrogate (code : Nat) : Bool :=
  decide (0xD800 ≤ code) && decide (code ≤ 0xDBFF)

/-- The code is one of those that end a pair of surrogates. -/
def isLowSurrogate (code : Nat) : Bool :=
  decide (0xDC00 ≤ code) && decide (code ≤ 0xDFFF)

/-- The code is that of a surrogate. -/
def isSurrogate (code : Nat) : Bool :=
  isHighSurrogate code || isLowSurrogate code

/-- The codes that units of two bytes write. Codes beyond the first 65536 are written by a pair of
surrogates; other surrogates stand for themselves. -/
def codesOfUnits : List Nat → List Nat
  | [] => []
  | [unit] => [unit]
  | high :: low :: rest =>
    if isHighSurrogate high && isLowSurrogate low then
      (0x10000 + (high - 0xD800) * 0x400 + (low - 0xDC00)) :: codesOfUnits rest
    else high :: codesOfUnits (low :: rest)

/-- The greatest code. -/
def maxCode : Nat := 0x10FFFF

/-- The codes that quadruples of bytes write. -/
def codesOfQuadruples? (highFirst : Bool) : List UInt8 → Option (List Nat)
  | [] => some []
  | a :: b :: c :: d :: rest =>
    let fromHigh := if highFirst then [a, b, c, d] else [d, c, b, a]
    let code := fromHigh.foldl (fun code byte ↦ code * 0x100 + byte.toNat) 0
    if code ≤ maxCode then (codesOfQuadruples? highFirst rest).map (code :: ·) else none
  | _ => none

/-- The codes that bytes write in an encoding. -/
def Encoding.codes? : Encoding → List UInt8 → Option (List Nat)
  | .bytes, source => codesOfUtf8? source
  | .pairs highFirst, source => (pairUnits? highFirst source).map codesOfUnits
  | .quadruples highFirst, source => codesOfQuadruples? highFirst source

/-- The codes that bytes write in the encoding that shows in them. -/
def codes? (source : List UInt8) : Option (List Nat) :=
  match Encoding.detect source with
  | (encoding, rest) => encoding.codes? rest

end TenantReporting.Text
