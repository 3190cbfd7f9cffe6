import TenantReporting.Text.Hex
import TenantReporting.Text.Percent
import TenantReporting.Text.Quoted
import TenantReporting.Text.Utf8

/-!
# Addresses of requests

The address of a request is put together from the host that the request names, its path and its
query, and is then taken apart again. So a host in which a mark of addresses occurs ends early and
goes on with a path of its own. A host with brackets has to enclose a numeric address in them, a
character that would become a mark when it is written in its plain form is not allowed in a host,
and a query has to be text.
-/

namespace TenantReporting

/-- An address, without what stands before its host and after its path. -/
structure Address where
  host : List Char
  path : String
deriving DecidableEq, Repr

/-- Why an address cannot be put together or taken apart. -/
inductive AddressFault where
  | undecodable (fault : Text.DecodingFault)
  | unbalanced
  | misnumbered
  | notNumeric (host : String)
  | short
  | composed (host : String)
deriving DecidableEq, Repr

/-- The public name of a fault. -/
def AddressFault.name : AddressFault → String
  | .undecodable _ => "UnicodeDecodeError"
  | _ => "ValueError"

/-- The wording of a fault. -/
def AddressFault.message : AddressFault → String
  | .undecodable fault => fault.message
  | .unbalanced => "Invalid IPv6 URL"
  | .misnumbered => "IPvFuture address is invalid"
  | .notNumeric host => Text.quoted host ++ " does not appear to be an IPv4 or IPv6 address"
  | .short => "An IPv4 address cannot be in brackets"
  | .composed host =>
    "netloc '" ++ host ++ "' contains invalid characters under NFKC normalization"

namespace Address

/-! ### Taking addresses apart -/

/-- A character that does not belong to an address even where it occurs in one. -/
def isIgnored (c : Char) : Bool :=
  c == '\t' || c == '\r' || c == '\n'

/-- A mark with which the path of an address ends. -/
def endsPath (c : Char) : Bool :=
  c == '?' || c == '#'

/-- A mark with which the host of an address ends. -/
def endsHost (c : Char) : Bool :=
  c == '/' || endsPath c

/-- The address that a text writes, which begins with the host. -/
def ofText (text : String) : Address :=
  let written := text.toList.filter fun c ↦ !isIgnored c
  { host := written.takeWhile fun c ↦ !endsHost c
    path := String.ofList
      ((written.dropWhile fun c ↦ !endsHost c).takeWhile fun c ↦ !endsPath c) }

/-! ### Numeric addresses -/

/-- The text is one of the four numbers of a short numeric address. -/
def isOctet (text : List Char) : Bool :=
  let value := text.foldl (fun value digit ↦ 10 * value + (digit.toNat - '0'.toNat)) 0
  !text.isEmpty && text.all Char.isDigit && decide (text.length ≤ 3)
    && (text == ['0'] || text.head? != some '0') && decide (value ≤ 255)

/-- The text is a short numeric address, which consists of four numbers. -/
def isShort (text : List Char) : Bool :=
  let octets := Text.pieces '.' text
  octets.length == 4 && octets.all isOctet

/-- The text is a group of hexadecimal digits. -/
def isGroup (text : List Char) : Bool :=
  !text.isEmpty && decide (text.length ≤ 4) && text.all fun c ↦ (Text.hexValue? c).isSome

/-- The groups of a long numeric address; a short address may stand for the last two of them. -/
def groups? (text : List Char) : Option (List (List Char)) :=
  let groups := Text.pieces ':' text
  match groups.getLast? with
  | some last =>
    if last.contains '.' then
      if isShort last then some (groups.dropLast ++ [['0'], ['0']]) else none
    else some groups
  | none => none

/-- The groups on one side of a gap. Next to an end of the address the gap leaves an empty group. -/
def besideGap (groups : List (List Char)) : List (List Char) :=
  if groups == [[]] then [] else groups

/-- The groups make up a long numeric address: there are eight of them, or a gap inside stands for
one or more. -/
def areComplete (groups : List (List Char)) : Bool :=
  let inner := (groups.drop 1).dropLast
  match inner.count [] with
  | 0 => groups.length == 8 && groups.all isGroup
  | 1 =>
    let before := besideGap (groups.take (inner.idxOf [] + 1))
    let after := besideGap (groups.drop (inner.idxOf [] + 2))
    decide (before.length + after.length < 8) && (before ++ after).all isGroup
  | _ => false

/-- The text is a long numeric address, which may name a zone. -/
def isLong (text : List Char) : Bool :=
  let isInZone := match text.dropWhile (· != '%') with
    | [] => true
    | _ :: zone => !zone.isEmpty && !zone.contains '%'
  isInZone && (groups? (text.takeWhile (· != '%'))).any areComplete

/-- The text is an address of a kind yet to come: the number of the kind, a dot, and anything. -/
def isFuture (text : List Char) : Bool :=
  match text with
  | 'v' :: rest =>
    let kind := rest.takeWhile fun c ↦ (Text.hexValue? c).isSome
    !kind.isEmpty && match rest.drop kind.length with
      | '.' :: _ :: _ => true
      | _ => false
  | _ => false

/-! ### Faults of hosts -/

/-- Characters that become marks of addresses when they are written in their plain form. -/
def composedMarks : List Char :=
  ['\u2047', '\u2048', '\u2049', '\u2100', '\u2101', '\u2105', '\u2106', '\u2a74', '\ufe13',
   '\ufe16', '\ufe55', '\ufe56', '\ufe5f', '\ufe6b', '\uff03', '\uff0f', '\uff1a', '\uff1f',
   '\uff20']

/-- The fault of what stands between the brackets of a host. -/
def enclosedFault? (enclosed : List Char) : Option AddressFault :=
  if enclosed.head? == some 'v' then
    if isFuture enclosed then none else some .misnumbered
  else if isShort enclosed then some .short
  else if isLong enclosed then none
  else some (.notNumeric (String.ofList enclosed))

/-- The fault of the brackets of a host. -/
def bracketFault? (host : List Char) : Option AddressFault :=
  match host.contains '[', host.contains ']' with
  | false, false => none
  | true, true =>
    enclosedFault? (((host.dropWhile (· != '[')).drop 1).takeWhile (· != ']'))
  | _, _ => some .unbalanced

/-- The fault of an address, if it has one. -/
def fault? (address : Address) : Option AddressFault :=
  (bracketFault? address.host).or <|
    if address.host.any composedMarks.contains then
      some (.composed (String.ofList address.host))
    else none

end Address

end TenantReporting
