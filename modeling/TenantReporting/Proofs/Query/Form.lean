import TenantReporting.Query.Basic

/-!
# Forms of queries

The form of a query is all that its text says: of a filter it keeps the column, the operator and
the number of placeholders, but no value. Queries of equal form have the same text
(`text_eq_of_form_eq`), whatever their values are.
-/

namespace TenantReporting.Query

/-- What the text of a filter says: its column, its operator and how many placeholders it has. -/
structure FilterForm where
  column : ColumnName
  operator : Operator
  count : Nat
deriving DecidableEq, Repr

/-- What the text of a query says. -/
structure Form where
  selection : List SelectItem
  source : String
  joins : List Join
  filters : List FilterForm
  groups : List String
  order : List OrderKey
  limit : Option Nat
deriving DecidableEq, Repr

variable {α β : Type}

/-- The operator of a test. -/
def Test.operator : Test α → Operator
  | .compare comparison _ => .compare comparison
  | .among _ => .among
  | .isNull => .isNull
  | .isNotNull => .isNotNull

/-- The form of a filter. -/
def Filter.form (filter : Filter α) : FilterForm :=
  ⟨filter.column, filter.test.operator, filter.test.values.length⟩

/-- The form of a query. -/
def form (query : Query α) : Form where
  selection := query.selection
  source := query.source
  joins := query.joins
  filters := query.filters.map Filter.form
  groups := query.groups
  order := query.order
  limit := query.limit

theorem Test.text_compare (first : Nat) (comparison : Comparison) (value : α) :
    (Test.compare comparison value).text first =
      comparison.word.toList ++ ' ' :: placeholder first := rfl

theorem Test.text_among (first : Nat) (values : List α) :
    (Test.among values).text first =
      "IN (".toList ++ separated ", " (placeholders first values.length) ++ [')'] := rfl

/-- The text of a test depends on its operator and the number of its values. -/
theorem Test.text_congr {left : Test α} {right : Test β} (first : Nat)
    (hoperator : left.operator = right.operator)
    (hcount : left.values.length = right.values.length) :
    left.text first = right.text first := by
  cases left with
  | compare comparison value =>
      cases right with
      | compare other _ =>
          have hcomparison : comparison = other := Operator.compare.inj hoperator
          rw [Test.text_compare, Test.text_compare, hcomparison]
      | _ => exact Operator.noConfusion hoperator
  | among values =>
      cases right with
      | among others =>
          have hlength : values.length = others.length := hcount
          rw [Test.text_among, Test.text_among, hlength]
      | _ => exact Operator.noConfusion hoperator
  | isNull =>
      cases right with
      | isNull => rfl
      | _ => exact Operator.noConfusion hoperator
  | isNotNull =>
      cases right with
      | isNotNull => rfl
      | _ => exact Operator.noConfusion hoperator

/-- The text of a filter depends on its form. -/
theorem Filter.text_congr {left : Filter α} {right : Filter β} (first : Nat)
    (h : left.form = right.form) : left.text first = right.text first := by
  simp only [Filter.form, FilterForm.mk.injEq] at h
  obtain ⟨hcolumn, hoperator, hcount⟩ := h
  rw [Filter.text, Filter.text, hcolumn, Test.text_congr first hoperator hcount]

/-- The texts of numbered filters depend on their forms: equal forms use up equally many
numbers. -/
theorem filter_texts_congr {left : List (Filter α)} {right : List (Filter β)} (first : Nat)
    (h : left.map Filter.form = right.map Filter.form) :
    filterTexts first left = filterTexts first right := by
  induction left generalizing right first with
  | nil =>
      rw [List.map_nil, eq_comm, List.map_eq_nil_iff] at h
      rw [h, filterTexts, filterTexts]
  | cons filter filters ih =>
      cases right with
      | nil => simp at h
      | cons other others =>
          obtain ⟨hform, hforms⟩ := List.cons.inj h
          have hcount : filter.test.values.length = other.test.values.length :=
            congrArg FilterForm.count hform
          rw [filterTexts, filterTexts, Filter.text_congr first hform, hcount, ih _ hforms]

/-- Queries of equal form have the same text. -/
theorem text_eq_of_form_eq {left : Query α} {right : Query β} (h : left.form = right.form) :
    left.text = right.text := by
  simp only [form, Form.mk.injEq] at h
  obtain ⟨hselection, hsource, hjoins, hfilters, hgroups, horder, hlimit⟩ := h
  rw [text, text, clauses, clauses, hselection, hsource, hjoins, filter_texts_congr 1 hfilters,
    hgroups, horder, hlimit]

end TenantReporting.Query
