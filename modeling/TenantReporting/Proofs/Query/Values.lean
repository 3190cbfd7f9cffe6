import Mathlib.Data.List.ReduceOption
import TenantReporting.Proofs.Query.NormalForm
import TenantReporting.Proofs.Query.Compile

/-!
# Values never influence query text

Two configurations that differ only in the values of their filters, where corresponding values have
the same shape for their operator, are compiled alike (`compile_alike`): to the same text, or to the
same failure. Every step of the compiler is compared for the two. Where the values come in, in the
test of a filter, only the form of the test is kept, and the text depends on the form alone.
-/

namespace TenantReporting

open Query

/-- How many items a list has. -/
def Json.itemCount? : Json → Option Nat
  | .list items => some items.length
  | _ => none

/-- The operator makes no difference between the shapes of two values: for membership, both are
lists of the same length or neither is a list; for a test for the missing value, both stand for it
or neither does; a comparison takes any two values. -/
def Query.SameShape (operator : Operator) (left right : Json) : Prop :=
  match operator with
  | .compare _ => True
  | .among => left.itemCount? = right.itemCount?
  | .isNull => isNullLiteral left = isNullLiteral right
  | .isNotNull => isNullLiteral left = isNullLiteral right

/-- The filters differ in their values only, and these have the same shape. -/
structure FilterSpec.SameUpToValue (spec other : FilterSpec) : Prop where
  rest : other = { spec with value := other.value }
  shape : SameShape spec.operation spec.value other.value

/-- The configurations differ in the values of their filters only, and corresponding values have the
same shape. -/
structure ReportConfig.SameUpToValues (config other : ReportConfig) : Prop where
  rest : other = { config with filters := other.filters }
  filters : List.Forall₂ FilterSpec.SameUpToValue config.filters other.filters

namespace Query

/-- What a test says without its values. -/
def Test.form {α : Type} (test : Test α) : Operator × Nat :=
  (test.operator, test.values.length)

theorem item_count_eq_some {value : Json} {count : Nat} (h : value.itemCount? = some count) :
    ∃ items : List Json, value = .list items ∧ items.length = count := by
  cases value with
  | list items => exact ⟨items, rfl, Option.some.inj h⟩
  | _ => cases h

/-- Membership is refused in a value that is no list. -/
theorem test_among_none {value : Json} (h : value.itemCount? = none) :
    test? .among value = .error (.report .notAList) := by
  cases value with
  | list items => cases h
  | _ => rfl

/-- Membership in a list of so many items is a test with as many values, or none. -/
theorem test_among_form {left right : List Json} (h : left.length = right.length) :
    Outcome.Alike (fun test other ↦ test.map Test.form = other.map Test.form)
      (test? .among (.list left)) (test? .among (.list right)) := by
  cases left with
  | nil =>
      have hright : right = [] := List.length_eq_zero_iff.1 h.symm
      rw [hright]
      exact .done rfl
  | cons value values =>
      cases right with
      | nil => cases h
      | cons other others =>
          refine .done ?_
          show some (Operator.among, (value :: values).length) =
            some (Operator.among, (other :: others).length)
          rw [h]

/-- Values of the same shape lead to tests of the same form, or are refused alike. -/
theorem test_alike (operator : Operator) {left right : Json} (h : SameShape operator left right) :
    Outcome.Alike (fun test other ↦ test.map Test.form = other.map Test.form)
      (test? operator left) (test? operator right) := by
  cases operator with
  | compare comparison => exact .done rfl
  | among =>
      have hcount : left.itemCount? = right.itemCount? := h
      cases hleft : left.itemCount? with
      | none =>
          rw [test_among_none hleft, test_among_none (hcount ▸ hleft)]
          exact .failed _
      | some count =>
          obtain ⟨items, rfl, hitems⟩ := item_count_eq_some hleft
          obtain ⟨others, rfl, hothers⟩ := item_count_eq_some (hcount ▸ hleft)
          exact test_among_form (hitems.trans hothers.symm)
  | isNull =>
      have hnull : isNullLiteral left = isNullLiteral right := h
      rw [test?, test?, hnull]
      split
      · exact .done rfl
      · exact .failed _
  | isNotNull =>
      have hnull : isNullLiteral left = isNullLiteral right := h
      rw [test?, test?, hnull]
      split
      · exact .done rfl
      · exact .failed _

variable (rules : Rules)

/-- Filters that differ in their values only are compiled to filters of the same form, or are
refused alike. -/
theorem filter_alike {spec other : FilterSpec} (h : spec.SameUpToValue other) :
    Outcome.Alike (fun filter twin ↦ filter.map Filter.form = twin.map Filter.form)
      (filter? rules spec) (filter? rules other) := by
  rw [filter?, filter?, h.rest]
  refine .bind_same fun column _ ↦ .bind_same fun operator hoperator ↦ ?_
  -- The operator that is compiled is the one that the shape of the values is about.
  have hshape : SameShape operator spec.value other.value := by
    rw [operator_eq hoperator]
    exact h.shape
  refine (test_alike operator hshape).bind fun test twin htest ↦ .done ?_
  cases test with
  | none =>
      cases twin with
      | none => rfl
      | some twin => cases htest
  | some test =>
      cases twin with
      | none => cases htest
      | some twin =>
          obtain ⟨hoperators, hcounts⟩ := Prod.mk.inj (Option.some.inj htest)
          show some (Filter.form ⟨column, test⟩) = some (Filter.form ⟨column, twin⟩)
          rw [Filter.form, Filter.form, hoperators, hcounts]

/-- Compiled filters have the same forms if each two of them have, or none of either. -/
theorem forms_reduce {filters twins : List (Option (Filter Json))}
    (h : List.Forall₂ (fun filter twin ↦ filter.map Filter.form = twin.map Filter.form)
      filters twins) :
    filters.reduceOption.map Filter.form = twins.reduceOption.map Filter.form := by
  have hmaps : filters.map (Option.map Filter.form) = twins.map (Option.map Filter.form) := by
    induction h with
    | nil => rfl
    | cons hfilter _ ih => rw [List.map_cons, List.map_cons, hfilter, ih]
  rw [← List.reduceOption_map, ← List.reduceOption_map, hmaps]

/-- The rest of two configurations that differ in the values of their filters only is compiled to
queries of the same form, or is refused alike. -/
theorem rest_alike {config other : ReportConfig} (h : config.SameUpToValues other)
    (selection : List SelectItem) (source : String) (joins : List Join) :
    Outcome.Alike (fun query twin ↦ query.form = twin.form)
      (restOf rules config selection source joins) (restOf rules other selection source joins) := by
  have hpasses := Outcome.Alike.mapM
    (fun (spec twin : FilterSpec) (hspec : spec.SameUpToValue twin) ↦ filter_alike rules hspec)
    h.filters
  rw [restOf, restOf]
  refine hpasses.bind fun filters twins hfilters ↦ ?_
  rw [h.rest]
  refine .bind_same fun groups _ ↦ .bind_same fun order _ ↦ .bind_same fun limit _ ↦
    .bind_same fun written _ ↦ .done ?_
  rw [form, form, forms_reduce hfilters]

/-- Configurations that differ in the values of their filters only are compiled to queries of the
same form, or are refused alike. -/
theorem query_alike {config other : ReportConfig} (h : config.SameUpToValues other) :
    Outcome.Alike (fun query twin ↦ query.form = twin.form)
      (ofConfig rules config) (ofConfig rules other) := by
  have htables : other.tables = config.tables := by rw [h.rest]
  have hcolumns : other.columns = config.columns := by rw [h.rest]
  have hjoins : other.joins = config.joins := by rw [h.rest]
  rw [ofConfig, ofConfig, htables, hcolumns, hjoins]
  split
  · exact .failed _
  by_cases hempty : config.columns = []
  · rw [hempty]
    exact .failed _
  simp only [List.isEmpty_iff, hempty, if_false, pure_bind]
  refine .bind_same fun source _ ↦ .bind_same fun others _ ↦ .bind_same fun selection _ ↦ ?_
  split
  · exact rest_alike rules h selection source []
  · exact .bind_same fun joins _ ↦ rest_alike rules h selection source joins

/-- Queries of the same form are put together to the same text, or are refused alike. -/
theorem assemble_alike {query twin : Query Json} (bounds : Sql.Bounds)
    (h : query.form = twin.form) :
    Outcome.Alike (fun compiled other ↦ compiled.text = other.text)
      (assemble bounds query) (assemble bounds twin) := by
  rw [assemble, assemble, text_eq_of_form_eq h]
  exact .bind_same fun text _ ↦ .done rfl

end Query

/-- A JSON value that describes a configuration is compiled as this configuration. -/
theorem build_eq {rules : Rules} {value : Json} {config : ReportConfig}
    (h : configOf value = .ok config) : build rules value = compile rules config := by
  rw [build, h]
  rfl

/-- Bound values never influence query text. Two configurations that differ in the values of their
filters only, where corresponding values have the same shape for their operator, are compiled to the
same text or are refused for the same reason, whether they are handed over as such or as JSON
values. -/
theorem compile_alike (rules : Rules) {config other : ReportConfig}
    (h : config.SameUpToValues other) :
    Outcome.Alike (fun compiled twin ↦ compiled.text = twin.text)
        (compile rules config) (compile rules other) ∧
      ∀ value twin : Json, configOf value = .ok config → configOf twin = .ok other →
        Outcome.Alike (fun compiled twin ↦ compiled.text = twin.text)
          (build rules value) (build rules twin) := by
  have hcompile : Outcome.Alike (fun compiled twin ↦ compiled.text = twin.text)
      (compile rules config) (compile rules other) :=
    (query_alike rules h).bind fun query twin hform ↦ assemble_alike rules.bounds hform
  refine ⟨hcompile, fun value twin hvalue htwin ↦ ?_⟩
  rw [build_eq hvalue, build_eq htwin]
  exact hcompile

/-- A filter as a JSON value. -/
def filterRequest (column operator : String) (value : Json) : Json :=
  .object [("table", .text "users"), ("column", .text column), ("operator", .text operator),
    ("value", value)]

/-- The report with a filter of each kind as a JSON value, for some values of the filters. -/
def filteredRequest (age first second : Json) : Json :=
  .object [("tables", .list [.text "users"]),
    ("columns", .list [.object [("table", .text "users"), ("column", .text "id")]]),
    ("filters", .list [filterRequest "id" "in" (.list []), filterRequest "age" ">" age,
      filterRequest "id" "in" (.list [first, second]), filterRequest "gone" "is" .null])]

/-- A report with a filter of each kind and with values that look like query text. -/
def hostileReport : ReportConfig :=
  { filteredReport with
    filters := [⟨"users", "id", some "in", .list []⟩,
      ⟨"users", "age", some ">", .text "0; DROP TABLE users"⟩,
      ⟨"users", "id", some "in", .list [.text "$3)", .null]⟩,
      ⟨"users", "gone", some "is", .null⟩] }

/-- Values that look like query text are compiled to the same text as numbers. -/
theorem hostile_report_alike : ∃ compiled twin,
    build {} (filteredRequest (.integer 7) (.integer 1) (.integer 2)) = .ok compiled ∧
      build {} (filteredRequest (.text "0; DROP TABLE users") (.text "$3)") .null) = .ok twin ∧
      compiled.text = twin.text := by
  have hsame : filteredReport.SameUpToValues hostileReport := {
    rest := rfl
    filters := .cons ⟨rfl, rfl⟩ (.cons ⟨rfl, trivial⟩ (.cons ⟨rfl, rfl⟩ (.cons ⟨rfl, rfl⟩ .nil))) }
  have hplain : configOf (filteredRequest (.integer 7) (.integer 1) (.integer 2)) =
      .ok filteredReport := by rfl
  have hhostile : configOf (filteredRequest (.text "0; DROP TABLE users") (.text "$3)") .null) =
      .ok hostileReport := by rfl
  have halike := (compile_alike {} hsame).2 _ _ hplain hhostile
  obtain ⟨compiled, hcompiled⟩ := filtered_report_compiles
  rw [build_eq hplain, hcompiled] at halike
  obtain ⟨twin, htwin, htext⟩ := halike.of_ok
  exact ⟨compiled, twin, (build_eq hplain).trans hcompiled, htwin, htext⟩

end TenantReporting
