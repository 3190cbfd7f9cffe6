import TenantReporting.Json.Basic

/-!
# Equality of JSON values

JSON values are compared part by part, which decides whether they are equal (`same_iff`).
-/

namespace TenantReporting.Json

mutual

/-- The values are the same in all their parts. -/
def same : Json → Json → Bool
  | .null, .null => true
  | .bool value, .bool other => value == other
  | .integer value, .integer other => value == other
  | .real value, .real other => value == other
  | .text value, .text other => value == other
  | .list items, .list others => sameItems items others
  | .object entries, .object others => sameEntries entries others
  | _, _ => false

/-- The lists have the same items in the same order. -/
def sameItems : List Json → List Json → Bool
  | [], [] => true
  | item :: items, other :: others => same item other && sameItems items others
  | _, _ => false

/-- The objects have the same entries in the same order. -/
def sameEntries : List (String × Json) → List (String × Json) → Bool
  | [], [] => true
  | (key, value) :: entries, (otherKey, other) :: others =>
    key == otherKey && same value other && sameEntries entries others
  | _, _ => false

end

mutual

theorem same_iff (value other : Json) : same value other = true ↔ value = other := by
  cases value with
  | list items => cases other <;> simp [same, same_items_iff items]
  | object entries => cases other <;> simp [same, same_entries_iff entries]
  | _ => cases other <;> simp [same]

theorem same_items_iff (items others : List Json) :
    sameItems items others = true ↔ items = others := by
  cases items with
  | nil => cases others <;> simp [sameItems]
  | cons item items =>
      cases others <;> simp [sameItems, same_iff item, same_items_iff items]

theorem same_entries_iff (entries others : List (String × Json)) :
    sameEntries entries others = true ↔ entries = others := by
  cases entries with
  | nil => cases others <;> simp [sameEntries]
  | cons entry entries =>
      obtain ⟨key, value⟩ := entry
      cases others <;> simp [sameEntries, same_iff value, same_entries_iff entries, Prod.ext_iff]

end

instance : DecidableEq Json :=
  fun value other ↦ decidable_of_iff _ (same_iff value other)

end TenantReporting.Json
