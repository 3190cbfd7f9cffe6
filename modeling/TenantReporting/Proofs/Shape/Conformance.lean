import TenantReporting.Proofs.Shape.Grammar
import TenantReporting.ReportConfig

/-!
# Readers that follow a grammar

A reader follows a grammar if it refuses a value for the defects that the grammar lists, all of them
and in their order, and accepts a value without defects. Readers of objects are followed field by
field (`ReadsFields`). The reader of report configurations follows the grammar of its five models
(`config_reader_follows`).
-/

namespace TenantReporting

namespace Shape

variable {α β : Type}

/-- The outcome of a check that finds the given defects: a value if there are none, and otherwise a
refusal for them. -/
inductive Checked.Shows : Checked α → List Defect → Prop where
  | accepted (value : α) : Shows (.accepted value) []
  | refused {defects : List Defect} (h : defects ≠ []) : Shows (.refused defects) defects

namespace Checked.Shows

theorem map {checked : Checked α} {defects : List Defect} (h : checked.Shows defects) (f : α → β) :
    (checked.map f).Shows defects := by
  cases h with
  | accepted value => exact .accepted (f value)
  | refused h => exact .refused h

theorem pair {first : Checked α} {second : Checked β} {defects more : List Defect}
    (h : first.Shows defects) (hmore : second.Shows more) :
    (Checked.pair first second).Shows (defects ++ more) := by
  cases h with
  | accepted a =>
      cases hmore with
      | accepted b => exact .accepted (a, b)
      | refused hmore => exact .refused hmore
  | refused h =>
      cases hmore with
      | accepted b =>
          rw [List.append_nil]
          exact .refused h
      | refused hmore => exact .refused (List.append_ne_nil_of_left_ne_nil h _)

theorem seq {f : Checked (α → β)} {checked : Checked α} {defects more : List Defect}
    (h : f.Shows defects) (hmore : checked.Shows more) : (f <*> checked).Shows (defects ++ more) :=
  (h.pair hmore).map _

theorem seq_left {checked : Checked α} {further : Checked β} {defects more : List Defect}
    (h : checked.Shows defects) (hmore : further.Shows more) :
    (checked <* further).Shows (defects ++ more) :=
  .seq (.seq (.accepted (Function.const β)) h) hmore

/-- Values that are checked together show the defects of each. -/
theorem all {values : List β} {check : β → Checked α} {defects : β → List Defect}
    (h : ∀ value, (check value).Shows (defects value)) :
    (Checked.all (values.map check)).Shows (values.flatMap defects) := by
  induction values with
  | nil => exact .accepted []
  | cons value values ih => exact ((h value).pair ih).map _

/-- A check accepts exactly if it shows no defect. -/
theorem accepted_iff {checked : Checked α} {defects : List Defect} (h : checked.Shows defects) :
    (∃ value, checked = .accepted value) ↔ defects = [] := by
  cases h with
  | accepted value => simp
  | refused h => simp [h]

/-- A check that shows defects refuses for them. -/
theorem eq_refused {checked : Checked α} {defects : List Defect} (h : checked.Shows defects)
    (hdefects : defects ≠ []) : checked = .refused defects := by
  cases h with
  | accepted value => exact absurd rfl hdefects
  | refused => rfl

end Checked.Shows

/-- The reader refuses a value for the defects that the grammar lists, and accepts it if there are
none. -/
def Follows (reader : Reader α) (grammar : Grammar) : Prop :=
  ∀ path value, (reader path value).Shows (grammar.defects path value)

theorem anything_follows : Follows anything .anything :=
  fun _ value ↦ .accepted value

theorem text_follows : Follows text .text := by
  intro path value
  cases value with
  | text text => exact .accepted text
  | _ => exact .refused (List.cons_ne_nil _ _)

theorem optional_text_follows : Follows text? .textOrNull := by
  intro path value
  cases value with
  | null => exact .accepted none
  | _ =>
      simp only [text?]
      exact (text_follows path _).map some

theorem list_of_follows {item : Reader α} {grammar : Grammar} (h : Follows item grammar) :
    Follows (listOf item) (.listOf grammar) := by
  intro path value
  cases value with
  | list items => exact .all fun (value, index) ↦ h (path ++ [.item index]) value
  | _ => exact .refused (List.cons_ne_nil _ _)

/-! ### Objects -/

namespace Field

variable {field : Field} {entries : List (String × Json)}

theorem key_of_found {name : String} {value : Json}
    (h : field.found? entries = some (name, value)) : field.key entries = name := by
  rw [key, h]
  rfl

theorem key_of_not_found (h : field.found? entries = none) : field.key entries = field.name := by
  rw [key, h]
  rfl

/-- A field that is not found has no value under its key. -/
theorem entry_of_not_found (h : field.found? entries = none) :
    Json.entry? entries (field.key entries) = none := by
  rw [key_of_not_found h]
  exact Option.map_eq_none_iff.1 (List.findSome?_eq_none_iff.1 h field.name (List.mem_cons_self ..))

/-- A field with one name goes by it. -/
theorem key_of_one (name : String) (isRequired : Bool) (grammar : Grammar) :
    Field.key { name, isRequired, grammar } entries = name := by
  cases hentry : Json.entry? entries name <;> simp [key, found?, names, hentry]

/-- A field with two names goes by the one that the reader of an object decides on. -/
theorem key_of_two (path : List Step) (first other : String) (isRequired : Bool)
    (grammar : Grammar) :
    Field.key ⟨first, [other], isRequired, grammar⟩ entries =
      Scope.nameOf ⟨path, entries⟩ first other := by
  unfold Scope.nameOf
  dsimp only
  cases hfirst : Json.entry? entries first with
  | some value => simp [key, found?, names, hfirst]
  | none =>
      cases hother : Json.entry? entries other with
      | some value => simp [key, found?, names, hfirst, hother]
      | none => simp [key, found?, names, hfirst, hother]

/-- An entry stands under the key of a field exactly if the field is found there. -/
theorem takes_eq_key {entry : String × Json} (h : entry ∈ entries) :
    field.takes entries entry.1 = (entry.1 == field.key entries) := by
  rw [takes]
  cases hfound : field.found? entries with
  | some found =>
      rw [key_of_found hfound, Option.any_some]
      exact Bool.beq_comm
  | none =>
      obtain ⟨value, hvalue⟩ := has_of_mem h
      have hkey : entry.1 ≠ field.key entries := by
        intro hkey
        rw [hkey, entry_of_not_found hfound] at hvalue
        cases hvalue
      rw [Option.any_none, beq_eq_false_iff_ne.2 hkey]

end Field

/-- The check reads the fields of an object: it shows the defects of each in the order of the
fields. -/
def ReadsFields (scope : Scope) (fields : List Field) (checked : Checked α) : Prop :=
  checked.Shows (fields.flatMap (Field.defects scope.path scope.entries))

namespace ReadsFields

variable {scope : Scope} {fields : List Field} {reader : Reader α} {grammar : Grammar}

/-- Before the first field nothing is read. -/
theorem start (make : α) : ReadsFields scope [] (.accepted make) :=
  .accepted make

/-- One more field is read after the others. -/
theorem next {field : Field} {make : Checked (α → β)} {checked : Checked α}
    (h : ReadsFields scope fields make)
    (hfield : checked.Shows (field.defects scope.path scope.entries)) :
    ReadsFields scope (fields ++ [field]) (make <*> checked) := by
  unfold ReadsFields
  rw [List.flatMap_append, List.flatMap_singleton]
  exact h.seq hfield

theorem required {field : Field} {make : Checked (α → β)} {key : String}
    (h : ReadsFields scope fields make) (hreader : Follows reader field.grammar)
    (hrequired : field.isRequired = true) (hkey : field.key scope.entries = key) :
    ReadsFields scope (fields ++ [field]) (make <*> scope.required key reader) := by
  refine h.next ?_
  rw [Scope.required, ← hkey]
  cases hfound : field.found? scope.entries with
  | some found =>
      rw [Field.defects_of_found hfound, Field.key_of_found hfound, (Field.of_found hfound).2]
      exact hreader _ _
  | none =>
      rw [Field.defects_of_not_found hfound, if_pos hrequired, Field.entry_of_not_found hfound,
        Field.key_of_not_found hfound]
      exact .refused (List.cons_ne_nil _ _)

theorem optional {field : Field} {make : Checked (α → β)} {key : String} {absent : α}
    (h : ReadsFields scope fields make) (hreader : Follows reader field.grammar)
    (hoptional : field.isRequired = false) (hkey : field.key scope.entries = key) :
    ReadsFields scope (fields ++ [field]) (make <*> scope.optional key reader absent) := by
  refine h.next ?_
  rw [Scope.optional, ← hkey]
  cases hfound : field.found? scope.entries with
  | some found =>
      rw [Field.defects_of_found hfound, Field.key_of_found hfound, (Field.of_found hfound).2]
      exact hreader _ _
  | none =>
      rw [Field.defects_of_not_found hfound, hoptional, Field.entry_of_not_found hfound]
      exact .accepted absent

/-- A check that knows the keys of the fields shows the keys that belong to none. -/
theorem only_keys_shows (scope : Scope) (fields : List Field) :
    (scope.onlyKeys (fields.map (·.key scope.entries))).Shows
      (unknownKeys scope.path scope.entries fields) := by
  have hknown : ∀ entry ∈ scope.entries,
      (!(fields.map (·.key scope.entries)).contains entry.1) =
        !fields.any (·.takes scope.entries entry.1) := by
    intro entry hentry
    rw [List.contains_eq_any_beq, List.any_map]
    refine congrArg (! ·) (List.any_congr rfl fun field ↦ ?_)
    exact (Field.takes_eq_key hentry).symm
  rw [Scope.onlyKeys, unknownKeys, List.filter_congr hknown]
  split
  next hnone =>
    rw [hnone]
    exact .accepted ()
  next unknown hsome => exact .refused fun h ↦ hsome (List.map_eq_nil_iff.1 h)

/-- An object whose fields are read, and whose keys are checked after them, is read by its
grammar. -/
theorem only_keys {checked : Checked α} (h : ReadsFields scope fields checked) {known : List String}
    (hknown : fields.map (·.key scope.entries) = known) :
    (checked <* scope.onlyKeys known).Shows
      (fields.flatMap (Field.defects scope.path scope.entries) ++
        unknownKeys scope.path scope.entries fields) := by
  rw [← hknown]
  exact Checked.Shows.seq_left h (only_keys_shows scope fields)

end ReadsFields

theorem object_follows {model : String} {fields : List Field}
    {hnames : (fields.flatMap Field.names).Nodup} {read : Scope → Checked α}
    (h : ∀ scope, (read scope).Shows (fields.flatMap (Field.defects scope.path scope.entries) ++
      unknownKeys scope.path scope.entries fields)) :
    Follows (object model read) (.record model fields hnames) := by
  intro path value
  cases value with
  | object entries => exact h ⟨path, entries⟩
  | _ => exact .refused (List.cons_ne_nil _ _)

end Shape

open Shape

/-! ### Report configurations -/

/-- A column: a table, a column of it, and possibly an aggregate and a label. -/
def ColumnSpec.grammar : Grammar :=
  .record "ColumnRef" [
    { name := "table", isRequired := true, grammar := .text },
    { name := "column", isRequired := true, grammar := .text },
    { name := "aggregate", grammar := .textOrNull },
    { name := "alias", grammar := .textOrNull }]

/-- A join: a table, possibly a kind, and a condition. -/
def JoinSpec.grammar : Grammar :=
  .record "JoinSpec" [
    { name := "table", isRequired := true, grammar := .text },
    { name := "type", grammar := .textOrNull },
    { name := "condition", isRequired := true, grammar := .text }]

/-- A filter: a column of a table, possibly an operator, and any value, which must be there. -/
def FilterSpec.grammar : Grammar :=
  .record "FilterSpec" [
    { name := "table", isRequired := true, grammar := .text },
    { name := "column", isRequired := true, grammar := .text },
    { name := "operator", grammar := .textOrNull },
    { name := "value", isRequired := true, grammar := .anything }]

/-- An order that is given with a direction, which may be left out. -/
def OrderSpec.directedGrammar : Grammar :=
  .record "OrderBySpec" [
    { name := "column", isRequired := true, grammar := .text },
    { name := "direction", grammar := .textOrNull }]

/-- An order in either form. -/
def OrderSpec.grammar : Grammar :=
  .textOr "OrderBySpec" OrderSpec.directedGrammar

/-- A report configuration. Two of its fields have a second name. -/
def ReportConfig.grammar : Grammar :=
  .record "ReportConfig" [
    { name := "tables", grammar := .listOf .text },
    { name := "columns", grammar := .listOf ColumnSpec.grammar },
    { name := "joins", grammar := .listOf JoinSpec.grammar },
    { name := "filters", grammar := .listOf FilterSpec.grammar },
    { name := "groupBy", others := ["group_by"], grammar := .listOf .text },
    { name := "orderBy", others := ["order_by"], grammar := .listOf OrderSpec.grammar },
    { name := "limit", grammar := .anything }]

theorem column_reader_follows : Follows ColumnSpec.reader ColumnSpec.grammar := by
  refine object_follows fun scope ↦ ReadsFields.only_keys ?_ ?_
  · exact ReadsFields.start ColumnSpec.mk
      |>.required text_follows rfl (Field.key_of_one ..)
      |>.required text_follows rfl (Field.key_of_one ..)
      |>.optional optional_text_follows rfl (Field.key_of_one ..)
      |>.optional optional_text_follows rfl (Field.key_of_one ..)
  · simp only [List.map_cons, List.map_nil, Field.key_of_one]

theorem join_reader_follows : Follows JoinSpec.reader JoinSpec.grammar := by
  refine object_follows fun scope ↦ ReadsFields.only_keys ?_ ?_
  · exact ReadsFields.start JoinSpec.mk
      |>.required text_follows rfl (Field.key_of_one ..)
      |>.optional optional_text_follows rfl (Field.key_of_one ..)
      |>.required text_follows rfl (Field.key_of_one ..)
  · simp only [List.map_cons, List.map_nil, Field.key_of_one]

theorem filter_reader_follows : Follows FilterSpec.reader FilterSpec.grammar := by
  refine object_follows fun scope ↦ ReadsFields.only_keys ?_ ?_
  · exact ReadsFields.start FilterSpec.mk
      |>.required text_follows rfl (Field.key_of_one ..)
      |>.required text_follows rfl (Field.key_of_one ..)
      |>.optional optional_text_follows rfl (Field.key_of_one ..)
      |>.required anything_follows rfl (Field.key_of_one ..)
  · simp only [List.map_cons, List.map_nil, Field.key_of_one]

theorem directed_reader_follows : Follows OrderSpec.directedReader OrderSpec.directedGrammar := by
  refine object_follows fun scope ↦ ReadsFields.only_keys ?_ ?_
  · exact ReadsFields.start OrderSpec.directed
      |>.required text_follows rfl (Field.key_of_one ..)
      |>.optional optional_text_follows rfl (Field.key_of_one ..)
  · simp only [List.map_cons, List.map_nil, Field.key_of_one]

theorem order_reader_follows : Follows OrderSpec.reader OrderSpec.grammar := by
  intro path value
  have hdirected := directed_reader_follows (path ++ [.key "OrderBySpec"]) value
  cases value with
  | text column => exact .accepted (OrderSpec.plain column)
  | _ =>
      unfold OrderSpec.reader OrderSpec.grammar Grammar.textOr
      dsimp only
      generalize OrderSpec.directedReader _ _ = checked at hdirected ⊢
      generalize OrderSpec.directedGrammar.defects _ _ = defects at hdirected ⊢
      cases hdirected with
      | accepted spec => exact .accepted spec
      | refused h =>
          dsimp only
          split
          · contradiction
          · exact .refused (List.cons_ne_nil _ _)

/-- A report configuration is accepted if its grammar lists no defect, and otherwise refused for
those that it lists. -/
theorem config_reader_follows : Follows ReportConfig.reader ReportConfig.grammar := by
  refine object_follows fun scope ↦ ReadsFields.only_keys ?_ ?_
  · exact ReadsFields.start ReportConfig.mk
      |>.optional (list_of_follows text_follows) rfl (Field.key_of_one ..)
      |>.optional (list_of_follows column_reader_follows) rfl (Field.key_of_one ..)
      |>.optional (list_of_follows join_reader_follows) rfl (Field.key_of_one ..)
      |>.optional (list_of_follows filter_reader_follows) rfl (Field.key_of_one ..)
      |>.optional (list_of_follows text_follows) rfl (Field.key_of_two scope.path ..)
      |>.optional (list_of_follows order_reader_follows) rfl (Field.key_of_two scope.path ..)
      |>.optional anything_follows rfl (Field.key_of_one ..)
  · simp only [List.map_cons, List.map_nil, Field.key_of_one, Field.key_of_two scope.path]

end TenantReporting
