import Mathlib.Data.List.Nodup
import Mathlib.Data.List.Pairwise
import TenantReporting.Shape.Reader

/-!
# Grammars of values

A grammar says which values have a shape and lists the defects of those that do not. Whatever is
built from grammars lists the defects in the order of its parts: the items of a list by their index,
the fields of an object in the order of their declaration, and after them the keys that belong to no
field, in the order of the value. A grammar carries the proof that a value is accepted exactly if
nothing is listed.
-/

namespace TenantReporting.Shape

/-- The values that have a shape, and the defects of a value at the end of a path. -/
structure Grammar where
  Accepts : Json → Prop
  defects : List Step → Json → List Defect
  accepts_iff : ∀ path value, Accepts value ↔ defects path value = []

namespace Grammar

/-- Any value. -/
def anything : Grammar where
  Accepts _ := True
  defects _ _ := []
  accepts_iff _ _ := by simp

/-- Text. -/
def text : Grammar where
  Accepts value := ∃ text, value = .text text
  defects path value :=
    match value with
    | .text _ => []
    | value => [⟨.notText, path, value⟩]
  accepts_iff path value := by cases value <;> simp

/-- Text or null. -/
def textOrNull : Grammar where
  Accepts value := value = .null ∨ ∃ text, value = .text text
  defects path value :=
    match value with
    | .null => []
    | value => text.defects path value
  accepts_iff path value := by cases value <;> simp [text]

/-- A list of values. -/
def listOf (item : Grammar) : Grammar where
  Accepts value := ∃ items, value = .list items ∧ ∀ value ∈ items, item.Accepts value
  defects path value :=
    match value with
    | .list items =>
      items.zipIdx.flatMap fun (value, index) ↦ item.defects (path ++ [.item index]) value
    | value => [⟨.notList, path, value⟩]
  accepts_iff path value := by
    cases value with
    | list items =>
        simp only [Json.list.injEq, exists_eq_left', List.flatMap_eq_nil_iff, Prod.forall]
        constructor
        · intro h value index hvalue
          exact (item.accepts_iff _ value).1 (h value (List.fst_mem_of_mem_zipIdx hvalue))
        · intro h value hvalue
          obtain ⟨index, hindex⟩ := List.mem_iff_getElem?.1 hvalue
          have hdefects := h value index (List.mk_mem_zipIdx_iff_getElem?.2 hindex)
          exact (item.accepts_iff _ value).2 hdefects
    | _ => simp

/-- Text, or a value of another shape, which is named in the paths of its defects. -/
def textOr (model : String) (other : Grammar) : Grammar where
  Accepts value := (∃ text, value = .text text) ∨ other.Accepts value
  defects path value :=
    match value with
    | .text _ => []
    | value =>
      match other.defects (path ++ [.key model]) value with
      | [] => []
      | defects => ⟨.notText, path ++ [.key "str"], value⟩ :: defects
  accepts_iff path value := by
    rw [other.accepts_iff (path ++ [.key model]) value]
    cases value with
    | text text => simp
    | _ =>
      dsimp only
      split
      next hnone => simp [hnone]
      next hsome => simpa using fun hnone ↦ hsome hnone

end Grammar

/-! ### Objects -/

/-- The entries have a value under the key. -/
def Has (entries : List (String × Json)) (key : String) : Prop :=
  ∃ value, Json.entry? entries key = some value

/-- A field of an object: its name, other names that it may have instead, whether it must be there,
and the grammar of its value. -/
structure Field where
  name : String
  others : List String := []
  isRequired : Bool := false
  grammar : Grammar

namespace Field

/-- The names under which a field may be found. -/
def names (field : Field) : List String :=
  field.name :: field.others

/-- The first name of a field that the entries have, and the value there. -/
def found? (field : Field) (entries : List (String × Json)) : Option (String × Json) :=
  field.names.findSome? fun name ↦ (Json.entry? entries name).map (name, ·)

/-- The name that a field goes by: the one under which it is found, and otherwise its own name. -/
def key (field : Field) (entries : List (String × Json)) : String :=
  ((field.found? entries).map (·.1)).getD field.name

/-- The field is found under the key. -/
def takes (field : Field) (entries : List (String × Json)) (key : String) : Bool :=
  (field.found? entries).any (·.1 == key)

/-- The defects of a field: those of its value, or that it is missing. -/
def defects (path : List Step) (entries : List (String × Json)) (field : Field) : List Defect :=
  match field.found? entries with
  | some (name, value) => field.grammar.defects (path ++ [.key name]) value
  | none =>
    if field.isRequired then [⟨.missing, path ++ [.key field.name], .object entries⟩] else []

end Field

/-- Each key that no field is found under is a defect. -/
def unknownKeys (path : List Step) (entries : List (String × Json)) (fields : List Field) :
    List Defect :=
  (entries.filter fun entry ↦ !fields.any (·.takes entries entry.1)).map fun (key, value) ↦
    ⟨.unknownKey, path ++ [.key key], value⟩

/-- The entries are those of an object with the given fields: every key names a field, no field has
two of its names, the required fields are there, and the value of each field has its grammar. -/
structure HasFields (fields : List Field) (entries : List (String × Json)) : Prop where
  known : ∀ entry ∈ entries, ∃ field ∈ fields, entry.1 ∈ field.names
  once : ∀ field ∈ fields, ∀ name ∈ field.names, ∀ other ∈ field.names,
    Has entries name → Has entries other → name = other
  present : ∀ field ∈ fields, field.isRequired = true → ∃ name ∈ field.names, Has entries name
  values : ∀ field ∈ fields, ∀ name ∈ field.names, ∀ value,
    Json.entry? entries name = some value → field.grammar.Accepts value

section Entries

variable {entries : List (String × Json)} {fields : List Field} {field : Field}

/-- A key with a value stands at an entry. -/
theorem Has.mem {key : String} (h : Has entries key) : ∃ entry ∈ entries, entry.1 = key := by
  obtain ⟨value, hvalue⟩ := h
  rw [Json.entry?, Option.map_eq_some_iff] at hvalue
  obtain ⟨entry, hentry, -⟩ := hvalue
  exact ⟨entry, List.mem_of_find?_eq_some hentry, by simpa using List.find?_some hentry⟩

/-- The key of an entry has a value. -/
theorem has_of_mem {entry : String × Json} (h : entry ∈ entries) : Has entries entry.1 := by
  have hfound : (entries.find? fun other ↦ other.1 == entry.1).isSome = true := by
    rw [List.find?_isSome]
    exact ⟨entry, h, beq_self_eq_true _⟩
  obtain ⟨other, hother⟩ := Option.isSome_iff_exists.1 hfound
  exact ⟨other.2, by rw [Json.entry?, hother, Option.map_some]⟩

/-- A field is found under one of its names, with the value there. -/
theorem Field.of_found {name : String} {value : Json} (h : field.found? entries = some (name, value)) :
    name ∈ field.names ∧ Json.entry? entries name = some value := by
  obtain ⟨other, hother, hvalue⟩ := List.exists_of_findSome?_eq_some h
  obtain ⟨found, hfound, hpair⟩ := Option.map_eq_some_iff.1 hvalue
  cases hpair
  exact ⟨hother, hfound⟩

/-- A field is found if the entries have one of its names. -/
theorem Field.found_of_has {name : String} (hname : name ∈ field.names) (h : Has entries name) :
    ∃ found value, field.found? entries = some (found, value) := by
  cases hfound : field.found? entries with
  | some found => exact ⟨found.1, found.2, rfl⟩
  | none =>
      obtain ⟨value, hvalue⟩ := h
      have hnone := List.findSome?_eq_none_iff.1 hfound name hname
      rw [hvalue] at hnone
      cases hnone

/-- A field that is found has the defects of its value. -/
theorem Field.defects_of_found {path : List Step} {name : String} {value : Json}
    (h : field.found? entries = some (name, value)) :
    field.defects path entries = field.grammar.defects (path ++ [.key name]) value := by
  rw [Field.defects, h]

/-- A field that is not found is a defect if it must be there. -/
theorem Field.defects_of_not_found {path : List Step} (h : field.found? entries = none) :
    field.defects path entries =
      if field.isRequired then [⟨.missing, path ++ [.key field.name], .object entries⟩] else [] := by
  rw [Field.defects, h]

theorem Field.takes_iff {key : String} :
    field.takes entries key = true ↔ ∃ value, field.found? entries = some (key, value) := by
  rw [Field.takes, Option.any_eq_true]
  constructor
  · rintro ⟨⟨name, value⟩, hfound, hkey⟩
    obtain rfl : name = key := eq_of_beq hkey
    exact ⟨value, hfound⟩
  · rintro ⟨value, hfound⟩
    exact ⟨_, hfound, beq_self_eq_true _⟩

/-- No key is unknown exactly if each entry stands under a name that a field is found under. -/
theorem unknown_keys_eq_nil_iff {path : List Step} :
    unknownKeys path entries fields = [] ↔
      ∀ entry ∈ entries, ∃ field ∈ fields, ∃ value, field.found? entries = some (entry.1, value) := by
  rw [unknownKeys, List.map_eq_nil_iff, List.filter_eq_nil_iff]
  refine forall₂_congr fun entry _ ↦ ?_
  rw [Bool.not_eq_true', Bool.not_eq_false, List.any_eq_true]
  exact exists_congr fun field ↦ and_congr_right fun _ ↦ Field.takes_iff

/-- With different names, a name belongs to one field. -/
theorem field_unique {other : Field} {name : String} (hnames : (fields.flatMap Field.names).Nodup)
    (hfield : field ∈ fields) (hother : other ∈ fields) (hname : name ∈ field.names)
    (hname' : name ∈ other.names) : field = other := by
  obtain ⟨-, hapart⟩ := List.nodup_flatMap.1 hnames
  have : Std.Symm (Function.onFun List.Disjoint Field.names) := ⟨fun _ _ h _ hleft hright ↦ h hright hleft⟩
  by_contra hne
  exact hapart.forall hfield hother hne hname hname'

namespace HasFields

/-- The fields of an object with these fields have no defects. -/
theorem no_defects (h : HasFields fields entries) (hfield : field ∈ fields) (path : List Step) :
    field.defects path entries = [] := by
  cases hfound : field.found? entries with
  | some found =>
      obtain ⟨hname, hvalue⟩ := Field.of_found hfound
      rw [Field.defects_of_found hfound]
      exact (field.grammar.accepts_iff _ _).1 (h.values field hfield _ hname _ hvalue)
  | none =>
      rw [Field.defects_of_not_found hfound, if_neg]
      intro hrequired
      obtain ⟨name, hname, hhas⟩ := h.present field hfield hrequired
      obtain ⟨found, value, hsome⟩ := Field.found_of_has hname hhas
      rw [hfound] at hsome
      cases hsome

/-- Every entry of an object with these fields is that under which a field is found. -/
theorem entry_found (h : HasFields fields entries) {entry : String × Json} (hentry : entry ∈ entries) :
    ∃ field ∈ fields, ∃ value, field.found? entries = some (entry.1, value) := by
  obtain ⟨field, hfield, hname⟩ := h.known entry hentry
  obtain ⟨found, value, hfound⟩ := Field.found_of_has hname (has_of_mem hentry)
  obtain ⟨hfoundName, hvalue⟩ := Field.of_found hfound
  have hsame := h.once field hfield found hfoundName _ hname ⟨value, hvalue⟩ (has_of_mem hentry)
  exact ⟨field, hfield, value, hsame ▸ hfound⟩

/-- If a field is found under each key, a field is found under each of its names that there is. -/
theorem found_under (hnames : (fields.flatMap Field.names).Nodup)
    (hknown : ∀ entry ∈ entries, ∃ field ∈ fields, ∃ value,
      field.found? entries = some (entry.1, value))
    (hfield : field ∈ fields) {name : String} (hname : name ∈ field.names)
    (hhas : Has entries name) : ∃ value, field.found? entries = some (name, value) := by
  obtain ⟨entry, hentry, rfl⟩ := hhas.mem
  obtain ⟨other, hother, value, hvalue⟩ := hknown entry hentry
  obtain ⟨hotherName, -⟩ := Field.of_found hvalue
  rw [field_unique hnames hfield hother hname hotherName]
  exact ⟨value, hvalue⟩

/-- Entries with a field for each key, none of which has a defect, are those of an object with these
fields. -/
theorem of_no_defects {path : List Step} (hnames : (fields.flatMap Field.names).Nodup)
    (hdefects : ∀ field ∈ fields, field.defects path entries = [])
    (hknown : ∀ entry ∈ entries, ∃ field ∈ fields, ∃ value,
      field.found? entries = some (entry.1, value)) : HasFields fields entries where
  known := by
    intro entry hentry
    obtain ⟨field, hfield, value, hvalue⟩ := hknown entry hentry
    exact ⟨field, hfield, (Field.of_found hvalue).1⟩
  once := by
    intro field hfield name hname other hother hhas hhasOther
    obtain ⟨value, hvalue⟩ := found_under hnames hknown hfield hname hhas
    obtain ⟨otherValue, hotherValue⟩ := found_under hnames hknown hfield hother hhasOther
    rw [hvalue] at hotherValue
    cases hotherValue
    rfl
  present := by
    intro field hfield hrequired
    have hnone := hdefects field hfield
    cases hfound : field.found? entries with
    | some found =>
        obtain ⟨hname, hvalue⟩ := Field.of_found hfound
        exact ⟨_, hname, _, hvalue⟩
    | none =>
        rw [Field.defects_of_not_found hfound, if_pos hrequired] at hnone
        cases hnone
  values := by
    intro field hfield name hname value hvalue
    obtain ⟨found, hfound⟩ := found_under hnames hknown hfield hname ⟨value, hvalue⟩
    have hsame := (Field.of_found hfound).2
    rw [hvalue] at hsame
    cases hsame
    have hnone := hdefects field hfield
    rw [Field.defects_of_found hfound] at hnone
    exact (field.grammar.accepts_iff _ value).2 hnone

end HasFields

/-- The fields of an object and its unknown keys show no defect exactly if its entries are those of
an object with these fields. -/
theorem has_fields_iff (hnames : (fields.flatMap Field.names).Nodup) (path : List Step) :
    HasFields fields entries ↔
      fields.flatMap (Field.defects path entries) ++ unknownKeys path entries fields = [] := by
  rw [List.append_eq_nil_iff, List.flatMap_eq_nil_iff, unknown_keys_eq_nil_iff]
  constructor
  · exact fun h ↦ ⟨fun field hfield ↦ h.no_defects hfield path, fun entry ↦ h.entry_found⟩
  · exact fun ⟨hdefects, hknown⟩ ↦ .of_no_defects hnames hdefects hknown

end Entries

/-- An object with the given fields, whose names are different, and no others. -/
def Grammar.record (model : String) (fields : List Field)
    (hnames : (fields.flatMap Field.names).Nodup := by decide) : Grammar where
  Accepts value := ∃ entries, value = .object entries ∧ HasFields fields entries
  defects path value :=
    match value with
    | .object entries =>
      fields.flatMap (Field.defects path entries) ++ unknownKeys path entries fields
    | value => [⟨.notObject model, path, value⟩]
  accepts_iff path value := by
    cases value with
    | object entries => simp [has_fields_iff hnames path]
    | _ => simp

end TenantReporting.Shape
