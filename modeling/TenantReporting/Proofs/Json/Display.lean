import TenantReporting.Json.Display
import TenantReporting.Proofs.Numeral

/-!
# Values that have a form

A value appears in a cell or in a message if every integer in it can be written, however deep it
lies, and nothing else keeps a value from being displayed (`display_written`).
-/

namespace TenantReporting.Json

mutual

/-- Every integer in a value. -/
def integers : Json → List Int
  | .integer value => [value]
  | .list items => integersOfItems items
  | .object entries => integersOfEntries entries
  | _ => []

/-- Every integer in the items of a list. -/
def integersOfItems : List Json → List Int
  | [] => []
  | item :: items => integers item ++ integersOfItems items

/-- Every integer in the entries of an object. -/
def integersOfEntries : List (String × Json) → List Int
  | [] => []
  | (_, value) :: entries => integers value ++ integersOfEntries entries

end

open Numeral (Writes)

mutual

theorem literal_written (value : Json) : Writes value.integers value.literal := by
  cases value with
  | integer value => exact (Writes.written value).map String.toList
  | list items =>
      cases items with
      | nil => exact .pure _
      | cons item items =>
          exact (literal_written item).both (literal_items_written items) _
  | object entries =>
      cases entries with
      | nil => exact .pure _
      | cons entry entries =>
          obtain ⟨key, value⟩ := entry
          exact (literal_written value).both (literal_entries_written entries) _
  | _ => exact .pure _

theorem literal_items_written (items : List Json) :
    Writes (integersOfItems items) (literalItems items) := by
  cases items with
  | nil => exact .pure _
  | cons item items =>
      exact (literal_written item).both (literal_items_written items) _

theorem literal_entries_written (entries : List (String × Json)) :
    Writes (integersOfEntries entries) (literalEntries entries) := by
  cases entries with
  | nil => exact .pure _
  | cons entry entries =>
      obtain ⟨key, value⟩ := entry
      exact (literal_written value).both (literal_entries_written entries) _

end

/-- A value is displayed exactly if none of its integers is too long. -/
theorem display_written (value : Json) : Writes value.integers value.display := by
  cases value with
  | text text => exact .pure text
  | _ => exact (literal_written _).map String.ofList

end TenantReporting.Json
