import TenantReporting.Binary64.Layout
import TenantReporting.Json.Basic
import TenantReporting.Numeral

/-!
# Values as people read them

The form in which a value appears in a cell or in a message. Text appears as it is; inside a list
or an object it is quoted. A value has no form if it contains an integer that cannot be written.
-/

namespace TenantReporting.Json

/-- The word for a value that is neither an integer nor text and has no parts. -/
def word : Json → String
  | .null => "None"
  | .bool value => if value then "True" else "False"
  | .real value => Binary64.cellLayout.text value
  | _ => ""

mutual

/-- The form of a value inside a list or an object. -/
def literal : Json → Except Numeral.Fault (List Char)
  | .integer value => do return (← Numeral.written value).toList
  | .text value => .ok (Text.quoted value).toList
  | .list [] => .ok ['[', ']']
  | .list (item :: items) => do
    let first ← literal item
    let rest ← literalItems items
    return '[' :: first ++ rest ++ [']']
  | .object [] => .ok ['\x7b', '\x7d']
  | .object ((key, value) :: entries) => do
    let first ← literal value
    let rest ← literalEntries entries
    return '\x7b' :: (Text.quoted key).toList ++ ':' :: ' ' :: first ++ rest ++ ['\x7d']
  | value => .ok value.word.toList

/-- The items after the first one, each after a separator. -/
def literalItems : List Json → Except Numeral.Fault (List Char)
  | [] => .ok []
  | item :: items => do
    let first ← literal item
    let rest ← literalItems items
    return ',' :: ' ' :: first ++ rest

/-- The entries after the first one, each after a separator. -/
def literalEntries : List (String × Json) → Except Numeral.Fault (List Char)
  | [] => .ok []
  | (key, value) :: entries => do
    let first ← literal value
    let rest ← literalEntries entries
    return ',' :: ' ' :: (Text.quoted key).toList ++ ':' :: ' ' :: first ++ rest

end

/-- The value as it appears in a cell or in a message. -/
def display : Json → Except Numeral.Fault String
  | .text value => .ok value
  | value => (literal value).map String.ofList

/-- What kind of value this is, by the short names that messages use. -/
def kindName : Json → String
  | .null => "NoneType"
  | .bool _ => "bool"
  | .integer _ => "int"
  | .real _ => "float"
  | .text _ => "str"
  | .list _ => "list"
  | .object _ => "dict"

end TenantReporting.Json
