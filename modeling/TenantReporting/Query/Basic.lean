import TenantReporting.Query.JoinCondition
import TenantReporting.Query.Vocabulary

/-!
# Queries

The queries that reports are made of, as data: what is selected, from which tables, under which
filters, in which groups and order, and how many rows at most. `Query.text` writes a query in the
query language of the stores. Values never enter the text: it holds a numbered placeholder for each,
and `Query.parameters` lists the values in the order of their placeholders. A query is therefore
generic in the type of its values, and its text depends on their number only.
-/

namespace TenantReporting.Query

/-- A selected column, possibly aggregated, under a name of its own if `label` is given. -/
structure SelectItem where
  column : ColumnName
  aggregate : Option Aggregate
  label : Option String
deriving DecidableEq, Repr

/-- A table joined to those before it. -/
structure Join where
  kind : JoinKind
  table : String
  condition : JoinCondition
deriving DecidableEq, Repr

/-- What a filter demands of its column. -/
inductive Test (α : Type) where
  | compare (comparison : Comparison) (value : α)
  | among (values : List α)
  | isNull
  | isNotNull
deriving DecidableEq, Repr

/-- A restriction of the rows by one column. -/
structure Filter (α : Type) where
  column : ColumnName
  test : Test α
deriving DecidableEq, Repr

/-- A column by which rows are ordered. -/
structure OrderKey where
  column : String
  direction : Direction
deriving DecidableEq, Repr

end Query

/-- A query with values of type `α`. -/
structure Query (α : Type) where
  selection : List Query.SelectItem
  source : String
  joins : List Query.Join
  filters : List (Query.Filter α)
  groups : List String
  order : List Query.OrderKey
  limit : Option Nat
deriving DecidableEq, Repr

namespace Query

variable {α β : Type}

/-- The values of a test in the order of their placeholders. -/
def Test.values : Test α → List α
  | .compare _ value => [value]
  | .among values => values
  | .isNull => []
  | .isNotNull => []

/-- The test with every value replaced. -/
def Test.map (f : α → β) : Test α → Test β
  | .compare comparison value => .compare comparison (f value)
  | .among values => .among (values.map f)
  | .isNull => .isNull
  | .isNotNull => .isNotNull

/-- The filter with every value replaced. -/
def Filter.map (f : α → β) (filter : Filter α) : Filter β :=
  ⟨filter.column, filter.test.map f⟩

/-- The query with every value replaced. -/
def map (f : α → β) (query : Query α) : Query β :=
  { query with filters := query.filters.map (Filter.map f) }

/-- The values of a query in the order of their placeholders. -/
def parameters (query : Query α) : List α :=
  query.filters.flatMap fun filter ↦ filter.test.values

/-! ### Names -/

/-- The names in a selected column. -/
def SelectItem.names (item : SelectItem) : List String :=
  item.column.names ++ item.label.toList

/-- The names in a join. -/
def Join.names (join : Join) : List String :=
  join.table :: join.condition.names

/-- Every name in the query. -/
def names (query : Query α) : List String :=
  query.selection.flatMap SelectItem.names ++ query.source :: query.joins.flatMap Join.names
    ++ query.filters.flatMap (fun filter ↦ filter.column.names) ++ query.groups
    ++ query.order.map OrderKey.column

/-! ### Text -/

/-- The items with `separator` between each two of them. -/
def separated (separator : String) (items : List (List Char)) : List Char :=
  separator.toList.intercalate items

/-- A placeholder by its number. -/
def placeholder (number : Nat) : List Char :=
  '$' :: Nat.toDigits 10 number

/-- So many placeholders in a row, numbered from `first`. -/
def placeholders (first count : Nat) : List (List Char) :=
  (List.range' first count).map placeholder

/-- A selected column in query text. -/
def SelectItem.text (item : SelectItem) : List Char :=
  let expression := match item.aggregate with
    | some aggregate => aggregate.apply item.column.text
    | none => item.column.text
  match item.label with
  | some label => expression ++ " AS ".toList ++ quotedName label
  | none => expression

/-- A join in query text. -/
def Join.text (join : Join) : List Char :=
  join.kind.word.toList ++ " JOIN ".toList ++ quotedName join.table ++ " ON ".toList
    ++ join.condition.text

/-- A test in query text, with placeholders numbered from `first`. -/
def Test.text (first : Nat) : Test α → List Char
  | .compare comparison _ => comparison.word.toList ++ ' ' :: placeholder first
  | .among values => "IN (".toList ++ separated ", " (placeholders first values.length) ++ [')']
  | .isNull => "IS NULL".toList
  | .isNotNull => "IS NOT NULL".toList

/-- A filter in query text, with placeholders numbered from `first`. -/
def Filter.text (first : Nat) (filter : Filter α) : List Char :=
  filter.column.text ++ ' ' :: filter.test.text first

/-- The filters in query text, with placeholders numbered in a row from `first`. -/
def filterTexts (first : Nat) : List (Filter α) → List (List Char)
  | [] => []
  | filter :: filters =>
    filter.text first :: filterTexts (first + filter.test.values.length) filters

/-- An order in query text. -/
def OrderKey.text (key : OrderKey) : List Char :=
  quotedName key.column ++ ' ' :: key.direction.word.toList

/-- A clause that is left out if it has no items. -/
def clause? (keyword separator : String) (items : List (List Char)) : List (List Char) :=
  if items.isEmpty then [] else [keyword.toList ++ ' ' :: separated separator items]

/-- The clauses of the query in the order in which they are written. -/
def clauses (query : Query α) : List (List Char) :=
  ["SELECT ".toList ++ separated ", " (query.selection.map SelectItem.text),
   "FROM ".toList ++ quotedName query.source]
    ++ query.joins.map Join.text
    ++ clause? "WHERE" " AND " (filterTexts 1 query.filters)
    ++ clause? "GROUP BY" ", " (query.groups.map quotedName)
    ++ clause? "ORDER BY" ", " (query.order.map OrderKey.text)
    ++ (query.limit.map fun limit ↦ "LIMIT ".toList ++ Nat.toDigits 10 limit).toList

/-- The text of the query. -/
def text (query : Query α) : List Char :=
  separated " " query.clauses

end Query

end TenantReporting
