import TenantReporting.Text.Hex

/-!
# UTF-8

Bytes of text and text from bytes. Decoding never stops: each longest piece that begins a
character but cannot be completed, and each byte that cannot begin one, is reported as a gap. The
callers choose whether gaps are refused, left out or replaced, and whether the codes of surrogates,
which are no characters, are gaps as well.
-/

namespace TenantReporting.Text

/-- The bytes of a text. -/
def utf8Bytes (text : String) : List UInt8 :=
  text.toUTF8.data.toList

/-- What is known of a character whose bytes have been read in part: the bits so far, how many
bytes are missing, and the range in which the next one must lie. -/
structure PartialCharacter where
  bits : Nat
  missing : Nat
  least : Nat
  greatest : Nat

/-- What the first byte of a character of several bytes says about it. Surrogates begin with the
byte `0xED` and go on with a byte that no character has there. -/
def PartialCharacter.ofLead? (surrogates : Bool) (byte : Nat) : Option PartialCharacter :=
  if 0xC2 ≤ byte ∧ byte ≤ 0xDF then some ⟨byte - 0xC0, 1, 0x80, 0xBF⟩
  else if byte = 0xE0 then some ⟨0, 2, 0xA0, 0xBF⟩
  else if byte = 0xED then some ⟨0xD, 2, 0x80, if surrogates then 0xBF else 0x9F⟩
  else if 0xE1 ≤ byte ∧ byte ≤ 0xEF then some ⟨byte - 0xE0, 2, 0x80, 0xBF⟩
  else if byte = 0xF0 then some ⟨0, 3, 0x90, 0xBF⟩
  else if 0xF1 ≤ byte ∧ byte ≤ 0xF3 then some ⟨byte - 0xF0, 3, 0x80, 0xBF⟩
  else if byte = 0xF4 then some ⟨4, 3, 0x80, 0x8F⟩
  else none

/-- Reads a byte that begins a character: what it yields at once, and the character it leaves
unfinished. -/
def beginCharacter (surrogates : Bool) (byte : Nat) :
    List (Option Nat) × Option PartialCharacter :=
  if byte < 0x80 then ([some byte], none)
  else match PartialCharacter.ofLead? surrogates byte with
    | some character => ([], some character)
    | none => ([none], none)

/-- Reads the next byte while a character may be unfinished. -/
def continueCharacter (surrogates : Bool) (unfinished : Option PartialCharacter) (byte : Nat) :
    List (Option Nat) × Option PartialCharacter :=
  match unfinished with
  | none => beginCharacter surrogates byte
  | some character =>
    if character.least ≤ byte ∧ byte ≤ character.greatest then
      let bits := character.bits * 64 + (byte - 0x80)
      if character.missing ≤ 1 then ([some bits], none)
      else ([], some ⟨bits, character.missing - 1, 0x80, 0xBF⟩)
    else
      let (read, unfinished) := beginCharacter surrogates byte
      (none :: read, unfinished)

/-- The codes and gaps that remain to be read when a character may be unfinished. -/
def decodeUtf8After (surrogates : Bool) (unfinished : Option PartialCharacter) :
    List UInt8 → List (Option Nat)
  | [] => if unfinished.isSome then [none] else []
  | byte :: rest =>
    let (read, unfinished) := continueCharacter surrogates unfinished byte.toNat
    read ++ decodeUtf8After surrogates unfinished rest

/-- The codes that a byte string without gaps writes, those of surrogates included. -/
def codesOfUtf8? (bytes : List UInt8) : Option (List Nat) :=
  (decodeUtf8After true none bytes).mapM id

/-- The characters and gaps of a byte string. -/
def decodeUtf8 (bytes : List UInt8) : List (Option Char) :=
  (decodeUtf8After false none bytes).map fun code? ↦ code?.map Char.ofNat

/-- The text of a byte string, leaving out gaps. -/
def textOfUtf8 (bytes : List UInt8) : String :=
  String.ofList ((decodeUtf8 bytes).filterMap id)

/-- A gap in a byte string, by its first byte, the number of its bytes and that of the bytes before
it; and why no character is written there. -/
structure DecodingFault where
  first : UInt8
  length : Nat
  position : Nat
  reason : String
deriving DecidableEq, Repr

/-- The wording of the fault. -/
def DecodingFault.message (fault : DecodingFault) : String :=
  let place :=
    if fault.length = 1 then
      "byte 0x" ++ String.ofList (hexDigits 2 fault.first.toNat) ++ " in position "
        ++ toString fault.position
    else
      "bytes in position " ++ toString fault.position ++ "-"
        ++ toString (fault.position + fault.length - 1)
  "'utf-8' codec can't decode " ++ place ++ ": " ++ fault.reason

/-- The first gap in the rest of a byte string of which `position` bytes have been read, the last
ones as the bytes `begun` of a character that may be unfinished. -/
def decodingFaultAfter? (position : Nat) (begun : List UInt8)
    (unfinished : Option PartialCharacter) : List UInt8 → Option DecodingFault
  | [] => begun.head?.map fun first ↦
    ⟨first, begun.length, position - begun.length, "unexpected end of data"⟩
  | byte :: rest =>
    match continueCharacter false unfinished byte.toNat, begun with
    | (none :: _, _), [] => some ⟨byte, 1, position, "invalid start byte"⟩
    | (none :: _, _), first :: others =>
      some ⟨first, others.length + 1, position - (others.length + 1), "invalid continuation byte"⟩
    | (_, some character), begun =>
      decodingFaultAfter? (position + 1) (begun ++ [byte]) (some character) rest
    | (_, none), _ => decodingFaultAfter? (position + 1) [] none rest

/-- The first gap in a byte string. -/
def decodingFault? (bytes : List UInt8) : Option DecodingFault :=
  decodingFaultAfter? 0 [] none bytes

end TenantReporting.Text
