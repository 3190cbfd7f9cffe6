import TenantReporting.Text.Encoding
import TenantReporting.Text.Hex

/-!
# Stand-ins for surrogates

JSON text that arrives may hold surrogates that are no part of a character, as they are or written
as escapes. No text of characters holds them, so they are replaced before the text is read: by
characters for private use that the text does not mention, not even as escapes. Like surrogates
these are neither letters nor digits nor blanks, have no case and are not printable, so whatever
reads them treats them as it would treat the surrogates. Only writing tells them apart: a surrogate
cannot be encoded, and its escape is that of its own code.
-/

namespace TenantReporting.Text

/-- Surrogates, and the codes of the characters that stand in for them. -/
abbrev StandIns := List (Nat × Nat)

/-! ### Escapes -/

/-- The code that the escape at the front of a text writes. -/
def escapedCode? : List Nat → Option Nat
  | 0x5C :: 0x75 :: a :: b :: c :: d :: _ =>
    [a, b, c, d].foldlM (fun code digit ↦ (hexValue? (Char.ofNat digit)).map (code * 16 + ·)) 0
  | _ => none

/-- The codes that are written by escapes anywhere in a text. -/
def escapedCodes : List Nat → List Nat
  | [] => []
  | code :: rest => (escapedCode? (code :: rest)).toList ++ escapedCodes rest

/-- How many codes belong to the escape at the front of a text, and the surrogate that it writes if
that is no part of a character. -/
def escapeAt (source : List Nat) : Nat × Option Nat :=
  match escapedCode? source with
  | none => (2, none)
  | some code =>
    if isHighSurrogate code && (escapedCode? (source.drop 6)).any isLowSurrogate then (12, none)
    else (6, if isSurrogate code then some code else none)

/-- The surrogates in a text that are no part of a character; `skipped` codes at its front belong to
an escape. -/
def surrogatesAfter (skipped : Nat) : List Nat → List Nat
  | [] => []
  | code :: rest =>
    if 0 < skipped then surrogatesAfter (skipped - 1) rest
    else if code = 0x5C then
      let (length, surrogate?) := escapeAt (code :: rest)
      surrogate?.toList ++ surrogatesAfter (length - 1) rest
    else if isSurrogate code then code :: surrogatesAfter 0 rest
    else surrogatesAfter 0 rest

namespace StandIns

/-! ### Choosing stand-ins -/

/-- The code of the replacement character. -/
def replacement : Nat := 0xFFFD

/-- So many codes of characters for private use, or all there are among the first 65536. -/
def privateUse (count : Nat) : List Nat :=
  (List.range (min count 0x1900)).map (0xE000 + ·)

/-- Stand-ins for the surrogates in a text: characters that it does not mention. There are three
times as many as surrogates, so only a text that mentions thousands of them leaves too few; then the
replacement character has to do. -/
def choose (source : List Nat) : StandIns :=
  match surrogatesAfter 0 source with
  | [] => []
  | surrogates =>
    let mentioned := source ++ escapedCodes source
    let candidates := privateUse (mentioned.length + surrogates.length)
    let fresh := candidates.filter fun code ↦ !mentioned.contains code
    surrogates.eraseDups.zip (fresh ++ List.replicate surrogates.length replacement)

variable (standIns : StandIns)

/-- The code that stands in for a surrogate. -/
def code (surrogate : Nat) : Nat :=
  (standIns.lookup surrogate).getD replacement

/-- The surrogate for which a character stands in. -/
def surrogate? (c : Char) : Option Nat :=
  (standIns.find? fun entry ↦ entry.2 == c.toNat).map (·.1)

/-! ### Reading -/

/-- What takes the place of the escape at the front of a text, which keeps its length. -/
def escapeReplaced (source : List Nat) : List Nat :=
  match escapeAt source with
  | (_, some surrogate) => 0x5C :: 0x75 :: (hexDigits 4 (standIns.code surrogate)).map Char.toNat
  | (length, none) => source.take length

/-- The text with stand-ins in place of its surrogates; `replaced` takes the place of the codes at
its front. -/
def insertedAfter (replaced : List Nat) : List Nat → List Nat
  | [] => []
  | code :: rest =>
    match replaced with
    | next :: replaced => next :: insertedAfter replaced rest
    | [] =>
      if code = 0x5C then
        code :: insertedAfter ((standIns.escapeReplaced (code :: rest)).drop 1) rest
      else if isSurrogate code then standIns.code code :: insertedAfter [] rest
      else code :: insertedAfter [] rest

/-- The text that codes write, with stand-ins in place of surrogates. -/
def inserted (source : List Nat) : String :=
  String.ofList ((standIns.insertedAfter [] source).map Char.ofNat)

/-! ### Writing -/

/-- The text with the escapes of surrogates in place of those of stand-ins; `replaced` takes the
place of the characters at its front. -/
def restoredAfter (replaced : List Char) : List Char → List Char
  | [] => []
  | c :: rest =>
    match replaced with
    | next :: replaced => next :: restoredAfter replaced rest
    | [] =>
      let escaped? := escapedCode? (((c :: rest).take 6).map Char.toNat)
      match escaped?.bind fun code ↦ standIns.surrogate? (Char.ofNat code) with
      | some surrogate => c :: restoredAfter ('u' :: hexDigits 4 surrogate) rest
      | none => c :: restoredAfter [] rest

/-- The text with the escapes of surrogates in place of those of stand-ins. -/
def restored (text : String) : String :=
  String.ofList (standIns.restoredAfter [] text.toList)

end StandIns

/-- Why a text cannot be encoded: the first surrogates in a row, and the number of characters before
them. -/
structure EncodingFault where
  surrogates : List Nat
  position : Nat
deriving DecidableEq, Repr

/-- The wording of the fault. -/
def EncodingFault.message (fault : EncodingFault) : String :=
  let place := match fault.surrogates with
    | [surrogate] =>
      "character '\\u" ++ String.ofList (hexDigits 4 surrogate) ++ "' in position "
        ++ toString fault.position
    | surrogates =>
      "characters in position " ++ toString fault.position ++ "-"
        ++ toString (fault.position + surrogates.length - 1)
  "'utf-8' codec can't encode " ++ place ++ ": surrogates not allowed"

/-- Why a text with stand-ins cannot be encoded, if it has any. -/
def StandIns.fault? (standIns : StandIns) (text : String) : Option EncodingFault :=
  let stands (c : Char) : Bool := (standIns.surrogate? c).isSome
  match text.toList.dropWhile (!stands ·) with
  | [] => none
  | rest =>
    some
      { surrogates := (rest.takeWhile stands).filterMap standIns.surrogate?
        position := text.toList.length - rest.length }

end TenantReporting.Text
