import TenantReporting.Shape.Reader

/-!
# Report configurations

What callers ask for: the tables and columns of a report, how they are joined, filtered, grouped and
ordered, and how many rows they want. Reading a configuration checks its shape only; what the texts
in it mean is decided when it is compiled into a query.
-/

namespace TenantReporting

/-- A column of the report, possibly aggregated and renamed. -/
structure ColumnSpec where
  table : String
  column : String
  aggregate : Option String
  label : Option String
deriving DecidableEq, Repr

/-- A table to be joined. -/
structure JoinSpec where
  table : String
  kind : Option String
  condition : String
deriving DecidableEq, Repr

/-- A restriction of a column by an operator and a value. -/
structure FilterSpec where
  table : String
  column : String
  operator : Option String
  value : Json
deriving Repr

/-- A column to order by, alone or with a direction. -/
inductive OrderSpec where
  | plain (column : String)
  | directed (column : String) (direction : Option String)
deriving DecidableEq, Repr

/-- The description of a report. -/
structure ReportConfig where
  tables : List String
  columns : List ColumnSpec
  joins : List JoinSpec
  filters : List FilterSpec
  groups : List String
  order : List OrderSpec
  limit : Json
deriving Repr

open Shape

/-- Reads a column of a report. -/
def ColumnSpec.reader : Reader ColumnSpec :=
  object "ColumnRef" fun scope ↦
    ColumnSpec.mk <$> scope.required "table" text
      <*> scope.required "column" text
      <*> scope.optional "aggregate" text? none
      <*> scope.optional "alias" text? none
      <* scope.onlyKeys ["table", "column", "aggregate", "alias"]

/-- Reads a table to be joined. -/
def JoinSpec.reader : Reader JoinSpec :=
  object "JoinSpec" fun scope ↦
    JoinSpec.mk <$> scope.required "table" text
      <*> scope.optional "type" text? none
      <*> scope.required "condition" text
      <* scope.onlyKeys ["table", "type", "condition"]

/-- Reads a filter. Its value may be null but must be there. -/
def FilterSpec.reader : Reader FilterSpec :=
  object "FilterSpec" fun scope ↦
    FilterSpec.mk <$> scope.required "table" text
      <*> scope.required "column" text
      <*> scope.optional "operator" text? none
      <*> scope.required "value" anything
      <* scope.onlyKeys ["table", "column", "operator", "value"]

/-- Reads an order that is given with a direction. -/
def OrderSpec.directedReader : Reader OrderSpec :=
  object "OrderBySpec" fun scope ↦
    OrderSpec.directed <$> scope.required "column" text
      <*> scope.optional "direction" text? none
      <* scope.onlyKeys ["column", "direction"]

/-- Reads an order in either form. A value that has neither form shows the defects of both. -/
def OrderSpec.reader : Reader OrderSpec
  | _, .text column => .accepted (.plain column)
  | path, value =>
    match OrderSpec.directedReader (path ++ [.key "OrderBySpec"]) value with
    | .accepted spec => .accepted spec
    | .refused defects => .refused (⟨.notText, path ++ [.key "str"], value⟩ :: defects)

/-- Reads a report configuration. Two of its fields have a second name, which counts only where the
first is absent. -/
def ReportConfig.reader : Reader ReportConfig :=
  object "ReportConfig" fun scope ↦
    let groups := scope.nameOf "groupBy" "group_by"
    let order := scope.nameOf "orderBy" "order_by"
    ReportConfig.mk <$> scope.optional "tables" (listOf text) []
      <*> scope.optional "columns" (listOf ColumnSpec.reader) []
      <*> scope.optional "joins" (listOf JoinSpec.reader) []
      <*> scope.optional "filters" (listOf FilterSpec.reader) []
      <*> scope.optional groups (listOf text) []
      <*> scope.optional order (listOf OrderSpec.reader) []
      <*> scope.optional "limit" anything .null
      <* scope.onlyKeys ["tables", "columns", "joins", "filters", groups, order, "limit"]

end TenantReporting
