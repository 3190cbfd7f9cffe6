import TenantReporting.Json.Basic
import TenantReporting.Text.LetterCase

/-!
# Headers

Headers are names in small letters with values, in the order in which they were sent. A name may
occur several times: whoever asks for a value gets the first one, and whoever lists the headers by
name sees the last one. Headers that carry credentials are never listed.
-/

namespace TenantReporting.Web

/-- The headers of a request or an answer. -/
abbrev Headers := List (String × String)

namespace Headers

/-- The small form of a character of a header's name. Names are made of the first 256 characters, of
which thirty capitals with marks have small forms besides the ASCII capitals. -/
def small (c : Char) : Char :=
  if 0xC0 ≤ c.toNat ∧ c.toNat ≤ 0xDE ∧ c.toNat ≠ 0xD7 then Char.ofNat (c.toNat + 32)
  else Text.small c

/-- The headers that were sent under names in any case. -/
def received (sent : List (String × String)) : Headers :=
  sent.map fun header ↦ (String.ofList (header.1.toList.map small), header.2)

/-- The value of the first header of a name. -/
def value? (headers : Headers) (name : String) : Option String :=
  headers.lookup name

/-- The names of headers that carry credentials. -/
def credentials : List String :=
  ["authorization", "cookie", "x-api-key"]

/-- The headers without those that carry credentials. -/
def withoutCredentials (headers : Headers) : Headers :=
  headers.filter fun header ↦ !credentials.contains header.1

/-- The headers by name: each name stands where it occurs first, with its last value. -/
def byName (headers : Headers) : List (String × Json) :=
  headers.foldl (fun entries header ↦ Json.put entries header.1 (.text header.2)) []

/-- The headers as they may be shown: by name and without credentials. -/
def listing (headers : Headers) : List (String × Json) :=
  headers.withoutCredentials.byName

end Headers

end TenantReporting.Web
