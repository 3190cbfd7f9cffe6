import Mathlib.Data.List.ReduceOption
import TenantReporting.Proofs.Query.Form
import TenantReporting.Proofs.Query.Name

/-!
# Normal forms of configurations

What a report configuration asks for once blanks, letter case and defaults no longer matter. The
normal form of a configuration is read off its specifications one by one, without compiling it and
without regard to the rules. The lemmas below say that each part of a configuration, if it is
accepted, is compiled to what its specification stands for.
-/

namespace TenantReporting

open Query

/-- The item that a specification stands for. Empty texts count as absent, and an aggregate is
labelled by its column unless it has a label of its own. -/
def ColumnSpec.item (spec : ColumnSpec) : SelectItem where
  column := ⟨spec.table, spec.column⟩
  aggregate := (nonempty? spec.aggregate).bind Aggregate.ofText?
  label := (nonempty? spec.label).or ((nonempty? spec.aggregate).map fun _ ↦ spec.column)

/-- The join that a specification stands for, if its condition has the form of one. -/
def JoinSpec.join? (spec : JoinSpec) : Option Join :=
  (splitCondition? spec.condition.toList).map fun condition ↦
    ⟨JoinKind.ofText? spec.kind, spec.table, condition⟩

/-- The operator of a filter. An operator that is absent or unknown stands for equality. -/
def FilterSpec.operation (spec : FilterSpec) : Operator :=
  (spec.operator.bind Operator.ofText?).getD (.compare .equal)

/-- The filter restricts something: it does not ask for membership in the empty list. -/
def FilterSpec.isKept (spec : FilterSpec) : Bool :=
  match spec.operation, spec.value with
  | .among, .list [] => false
  | _, _ => true

/-- The values that a filter binds: the items of a list, nothing in a test for the missing value,
and its single value in a comparison. -/
def FilterSpec.boundValues (spec : FilterSpec) : List Json :=
  match spec.operation, spec.value with
  | .compare _, value => [value]
  | .among, .list values => values
  | _, _ => []

/-- The form of the filter that a specification stands for. -/
def FilterSpec.form (spec : FilterSpec) : FilterForm :=
  ⟨⟨spec.table, spec.column⟩, spec.operation, spec.boundValues.length⟩

/-- The order that a specification stands for. -/
def OrderSpec.key : OrderSpec → OrderKey
  | .plain column => ⟨column, .ascending⟩
  | .directed column direction => ⟨column, Direction.ofText? direction⟩

/-- The number of rows that a limit stands for. -/
def givenLimit : Json → Option Nat
  | .null => none
  | limit => (limitValue limit).toOption.map Int.toNat

/-- The filters of a configuration that restrict something. -/
def ReportConfig.keptFilters (config : ReportConfig) : List FilterSpec :=
  config.filters.filter FilterSpec.isKept

/-- The joins that a configuration stands for, none with a condition that is no join condition.
Joins count only if there are several tables. -/
def ReportConfig.joinForms? (config : ReportConfig) : Option (List Join) :=
  if config.tables.length ≤ 1 then some [] else config.joins.mapM JoinSpec.join?

/-- The normal form of a configuration. There is none without a table or without its joins. -/
def ReportConfig.normalForm? (config : ReportConfig) : Option Form := do
  let source ← config.tables.head?
  let joins ← config.joinForms?
  return {
    selection := config.columns.map ColumnSpec.item
    source
    joins
    filters := config.keptFilters.map FilterSpec.form
    groups := config.groups
    order := config.order.map OrderSpec.key
    limit := givenLimit config.limit }

/-- The filter is the one that a specification stands for. -/
structure FilterSpec.Yields (spec : FilterSpec) (filter : Query.Filter Json) : Prop where
  column : filter.column = ⟨spec.table, spec.column⟩
  operator : filter.test.operator = spec.operation
  values : filter.test.values = spec.boundValues

/-- A filter has the form of its specification. -/
theorem FilterSpec.Yields.form_eq {spec : FilterSpec} {filter : Query.Filter Json}
    (h : spec.Yields filter) : filter.form = spec.form := by
  rw [Query.Filter.form, FilterSpec.form, h.column, h.operator, h.values]

/-! ### The parts of a configuration -/

namespace Query

/-- A specification that is accepted yields the item that it stands for. -/
theorem select_item_eq {spec : ColumnSpec} {item : SelectItem} (h : selectItem spec = .ok item) :
    item = spec.item := by
  simp only [selectItem, quoted_column_eq, quoted_identifier_eq, Outcome.bind_eq_ok_iff,
    column_name_eq_ok_iff] at h
  obtain ⟨_, ⟨rfl, _⟩, h⟩ := h
  cases haggregate : nonempty? spec.aggregate with
  | none =>
      cases hlabel : nonempty? spec.label with
      | none =>
          simp only [haggregate, hlabel, pure, Except.pure, Except.ok.injEq] at h
          simp [← h, ColumnSpec.item, haggregate, hlabel]
      | some label =>
          simp only [haggregate, hlabel, Outcome.bind_eq_ok_iff, identifier_eq_ok_iff, pure,
            Except.pure, Except.ok.injEq] at h
          obtain ⟨_, ⟨rfl, _⟩, rfl⟩ := h
          simp [ColumnSpec.item, haggregate, hlabel]
  | some given =>
      cases hknown : Aggregate.ofText? given with
      | none => simp [haggregate, hknown, throw, throwThe, MonadExceptOf.throw] at h
      | some aggregate =>
          cases hlabel : nonempty? spec.label with
          | none =>
              simp only [haggregate, hknown, hlabel, Outcome.bind_eq_ok_iff, pure, Except.pure,
                Except.ok.injEq] at h
              obtain ⟨_, _, rfl⟩ := h
              simp [ColumnSpec.item, haggregate, hknown, hlabel]
          | some label =>
              simp only [haggregate, hknown, hlabel, Outcome.bind_eq_ok_iff, identifier_eq_ok_iff,
                pure, Except.pure, Except.ok.injEq] at h
              obtain ⟨_, ⟨rfl, _⟩, rfl⟩ := h
              simp [ColumnSpec.item, haggregate, hknown, hlabel]

/-- The check of a column in a join condition changes no name. -/
theorem check_join_column_eq {column result : ColumnName}
    (h : checkJoinColumn column = .ok result) : result = column := by
  simp only [checkJoinColumn, Outcome.bind_eq_ok_iff, Outcome.mapError_eq_ok_iff,
    check_name_eq_ok_iff, pure, Except.pure, Except.ok.injEq] at h
  obtain ⟨_, ⟨rfl, _⟩, _, ⟨rfl, _⟩, rfl⟩ := h
  rfl

/-- A join condition that is accepted consists of the four names that were read from the text. -/
theorem join_condition_eq {text : String} {condition : JoinCondition}
    (h : joinCondition text = .ok condition) : splitCondition? text.toList = some condition := by
  rw [joinCondition] at h
  split at h
  · cases h
  · cases hsplit : splitCondition? text.toList with
    | none => simp [hsplit] at h
    | some split =>
        simp only [hsplit, Outcome.bind_eq_ok_iff, pure, Except.pure, Except.ok.injEq] at h
        obtain ⟨left, hleft, right, hright, rfl⟩ := h
        rw [check_join_column_eq hleft, check_join_column_eq hright]

/-- A specification that is accepted yields the join that it stands for. -/
theorem join_eq {spec : JoinSpec} {result : Join} (h : join spec = .ok result) :
    spec.join? = some result := by
  simp only [join, quoted_identifier_eq, Outcome.bind_eq_ok_iff, identifier_eq_ok_iff,
    Outcome.mapError_eq_ok_iff, pure, Except.pure, Except.ok.injEq] at h
  obtain ⟨_, ⟨rfl, _⟩, condition, hcondition, _, _, rfl⟩ := h
  rw [JoinSpec.join?, join_condition_eq hcondition, Option.map_some]

/-- An operator that is accepted is the one that the text stands for. -/
theorem operator_eq {rules : Rules} {text? : Option String} {result : Operator}
    (h : operator rules text? = .ok result) :
    result = (text?.bind Operator.ofText?).getD (.compare .equal) := by
  cases text? with
  | none => exact (Except.ok.inj h).symm
  | some text =>
      rw [Option.bind_some]
      cases hknown : Operator.ofText? text with
      | some known =>
          simp only [operator, hknown, Except.ok.injEq] at h
          exact h.symm
      | none =>
          simp only [operator, hknown] at h
          split at h
          · cases h
          · exact (Except.ok.inj h).symm

/-- A test that is accepted has the operator and the values of its specification, and there is none
exactly for a filter that is not kept. -/
theorem test_eq {spec : FilterSpec} {result : Option (Test Json)}
    (h : test? spec.operation spec.value = .ok result) :
    if spec.isKept then
      ∃ test, result = some test ∧ test.operator = spec.operation ∧ test.values = spec.boundValues
    else result = none := by
  cases hoperation : spec.operation with
  | compare comparison =>
      simp only [hoperation, test?, Except.ok.injEq] at h
      simp [FilterSpec.isKept, FilterSpec.boundValues, hoperation, ← h, Test.operator, Test.values]
  | among =>
      cases hvalue : spec.value with
      | list values =>
          cases values with
          | nil =>
              simp only [hoperation, hvalue, test?, Except.ok.injEq] at h
              simp [FilterSpec.isKept, hoperation, hvalue, ← h]
          | cons value values =>
              simp only [hoperation, hvalue, test?, Except.ok.injEq] at h
              simp [FilterSpec.isKept, FilterSpec.boundValues, hoperation, hvalue, ← h,
                Test.operator, Test.values]
      | _ => simp [hoperation, hvalue, test?] at h
  | isNull =>
      simp only [hoperation, test?] at h
      split at h
      · cases h
        simp [FilterSpec.isKept, FilterSpec.boundValues, hoperation, Test.operator, Test.values]
      · cases h
  | isNotNull =>
      simp only [hoperation, test?] at h
      split at h
      · cases h
        simp [FilterSpec.isKept, FilterSpec.boundValues, hoperation, Test.operator, Test.values]
      · cases h

/-- A filter that is accepted is the one that its specification stands for, and there is none
exactly if it is not kept. -/
theorem filter_eq {rules : Rules} {spec : FilterSpec} {result : Option (Filter Json)}
    (h : filter? rules spec = .ok result) :
    if spec.isKept then ∃ filter, result = some filter ∧ spec.Yields filter else result = none := by
  simp only [filter?, quoted_column_eq, Outcome.bind_eq_ok_iff, column_name_eq_ok_iff, pure,
    Except.pure, Except.ok.injEq] at h
  obtain ⟨_, ⟨rfl, _⟩, operation, hoperation, test, htest, rfl⟩ := h
  obtain rfl : operation = spec.operation := operator_eq hoperation
  have hkept := test_eq htest
  split at hkept
  case isTrue htrue =>
    obtain ⟨test, rfl, hoperator, hvalues⟩ := hkept
    rw [if_pos htrue]
    exact ⟨_, rfl, rfl, hoperator, hvalues⟩
  case isFalse hfalse =>
    rw [if_neg hfalse, hkept, Option.map_none]

/-- A pass over the filters of a configuration yields the kept ones in their order. -/
theorem filters_eq {rules : Rules} {specs : List FilterSpec}
    {results : List (Option (Filter Json))}
    (h : List.Forall₂ (fun spec result ↦ filter? rules spec = .ok result) specs results) :
    List.Forall₂ FilterSpec.Yields (specs.filter FilterSpec.isKept) results.reduceOption := by
  induction h with
  | nil => exact .nil
  | @cons spec result specs results hresult _ ih =>
      have hkept := filter_eq hresult
      split at hkept
      case isTrue htrue =>
        obtain ⟨filter, rfl, hyields⟩ := hkept
        rw [List.filter_cons_of_pos htrue, List.reduceOption_cons_of_some]
        exact .cons hyields ih
      case isFalse hfalse =>
        rw [hkept, List.filter_cons_of_neg hfalse, List.reduceOption_cons_of_none]
        exact ih

/-- A specification that is accepted yields the order that it stands for. -/
theorem order_key_eq {spec : OrderSpec} {key : OrderKey} (h : orderKey spec = .ok key) :
    key = spec.key := by
  cases spec with
  | plain column | directed column direction =>
      simp only [orderKey, quoted_identifier_eq, Outcome.bind_eq_ok_iff, identifier_eq_ok_iff, pure,
        Except.pure, Except.ok.injEq] at h
      obtain ⟨_, ⟨rfl, _⟩, rfl⟩ := h
      rfl

/-- Whatever becomes of the refusal, no limit beyond the greatest one is accepted. -/
theorem refuse_beyond_ne_ok (greatest : Int) (result : Nat) : refuseBeyond greatest ≠ .ok result := by
  unfold refuseBeyond
  cases Numeral.written greatest <;> exact nofun

/-- A limit that can be written stays as it is. -/
theorem writable_limit_eq {limit result : Option Nat} (h : writableLimit limit = .ok result) :
    result = limit := by
  cases limit with
  | none => exact (Except.ok.inj h).symm
  | some limit =>
      simp only [writableLimit, Outcome.bind_eq_ok_iff, pure, Except.pure, Except.ok.injEq] at h
      obtain ⟨_, _, rfl⟩ := h
      rfl

/-- A limit that is accepted is the number that it stands for. -/
theorem limit_of_eq {greatest : Int} {limit : Json} {result : Option Nat}
    (h : limitOf greatest limit = .ok result) : result = givenLimit limit := by
  by_cases hnull : limit = .null
  · subst hnull
    exact (Except.ok.inj h).symm
  · have hgiven : givenLimit limit = (limitValue limit).toOption.map Int.toNat := by
      rw [givenLimit]
      exact fun heq ↦ hnull heq
    rw [limitOf] at h
    · simp only [Outcome.bind_eq_ok_iff, pure, Except.pure, Except.ok.injEq] at h
      obtain ⟨value, hvalue, number, hnumber, rfl⟩ := h
      rw [checkLimit] at hnumber
      split at hnumber
      · cases hnumber
      split at hnumber
      · exact absurd hnumber (refuse_beyond_ne_ok greatest number)
      · cases hnumber
        simp [hgiven, hvalue, Except.toOption]
    · exact fun heq ↦ hnull heq

end Query

end TenantReporting
