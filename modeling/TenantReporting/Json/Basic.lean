import TenantReporting.Binary64.Basic

/-!
# JSON values

The values that configurations, bound parameters, rows and answers are made of. Objects keep the
order of their entries, integers have any size and differ from numbers with a fraction, and the
numbers include infinities and the missing number.
-/

namespace TenantReporting

/-- A JSON value. -/
inductive Json where
  | null
  | bool (value : Bool)
  | integer (value : Int)
  | real (value : Binary64)
  | text (value : String)
  | list (items : List Json)
  | object (entries : List (String × Json))
deriving Inhabited, Repr

namespace Json

/-- The value of an entry with the given key. -/
def entry? (entries : List (String × Json)) (key : String) : Option Json :=
  (entries.find? fun entry ↦ entry.1 == key).map (·.2)

/-- The entries with the value of `key` replaced in place or, for a new key, added at the end. -/
def put (entries : List (String × Json)) (key : String) (value : Json) : List (String × Json) :=
  if entries.any fun entry ↦ entry.1 == key then
    entries.map fun entry ↦ if entry.1 == key then (key, value) else entry
  else entries ++ [(key, value)]

/-- The value of a field, if the value is an object that has it. -/
def field? (value : Json) (key : String) : Option Json :=
  match value with
  | .object entries => entry? entries key
  | _ => none

/-- The value is neither null, false, zero nor empty. -/
def isSubstantial : Json → Bool
  | .null => false
  | .bool value => value
  | .integer value => value != 0
  | .real value => !value.isZero
  | .text value => value != ""
  | .list items => !items.isEmpty
  | .object entries => !entries.isEmpty

/-- The text that a value is. -/
def text? : Json → Option String
  | .text value => some value
  | _ => none

/-- The text that a value is. A value of another kind counts as empty text. -/
def givenText (value : Json) : String :=
  value.text?.getD ""

/-- The integer that a value is. -/
def integer? : Json → Option Int
  | .integer value => some value
  | _ => none

/-- The items of the list that a value is. -/
def items? : Json → Option (List Json)
  | .list items => some items
  | _ => none

/-- What a value consists of: the items of a list, the characters of a text, or the keys of an
object. -/
def parts? : Json → Option (List Json)
  | .list items => some items
  | .text value => some (value.toList.map fun c ↦ .text (String.singleton c))
  | .object entries => some (entries.map fun entry ↦ .text entry.1)
  | _ => none

mutual

/-- Every number in the value is finite. -/
def isFinite : Json → Bool
  | .real value => value.isFinite
  | .list items => areFinite items
  | .object entries => haveFiniteValues entries
  | _ => true

/-- Every number in the items is finite. -/
def areFinite : List Json → Bool
  | [] => true
  | item :: items => isFinite item && areFinite items

/-- Every number in the values of the entries is finite. -/
def haveFiniteValues : List (String × Json) → Bool
  | [] => true
  | (_, value) :: entries => isFinite value && haveFiniteValues entries

end

mutual

/-- Every text in a value, that of keys included, from front to back. -/
def texts : Json → List String
  | .text value => [value]
  | .list items => textsOfItems items
  | .object entries => textsOfEntries entries
  | _ => []

/-- Every text in the items of a list. -/
def textsOfItems : List Json → List String
  | [] => []
  | item :: items => texts item ++ textsOfItems items

/-- Every text in the entries of an object. -/
def textsOfEntries : List (String × Json) → List String
  | [] => []
  | (key, value) :: entries => key :: texts value ++ textsOfEntries entries

end

/-- Text, or null where there is none. -/
def ofText? : Option String → Json
  | some value => .text value
  | none => .null

/-- An integer, or null where there is none. -/
def ofInteger? : Option Int → Json
  | some value => .integer value
  | none => .null

/-- A number, or null where there is none. -/
def ofReal? : Option Binary64 → Json
  | some value => .real value
  | none => .null

end Json

end TenantReporting
