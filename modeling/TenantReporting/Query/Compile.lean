import TenantReporting.Query.Basic
import TenantReporting.Query.Limit
import TenantReporting.ReportConfig
import TenantReporting.Sql.Outline

/-!
# Compiling report configurations

`compile` turns a report configuration into query text and the values of its placeholders. Every
name is checked and then quoted, every word is taken from the vocabulary, and the first reason to
refuse the configuration ends compilation. `build` starts from a JSON value and checks its shape
first.
-/

namespace TenantReporting.Query

/-- What a service allows in report configurations. -/
structure Rules where
  /-- Unknown operators of filters are refused; otherwise they stand for equality. -/
  strictOperators : Bool := false
  /-- The greatest limit on the number of rows. -/
  greatestLimit : Int := 10000
  /-- How long and how deeply nested query text may be. -/
  bounds : Sql.Bounds := {}
deriving DecidableEq, Repr

/-- Query text and the values of its placeholders in order. -/
structure Compiled where
  text : String
  parameters : List Json
deriving Repr

/-- The name if it is an identifier, where `role` says what it is meant for. -/
def identifier (role name : String) : Except Failure String :=
  (checkName name).mapError fun defect ↦ .report (.name role defect)

/-- The name between quotation marks, given out only if it is an identifier. -/
def quoteName (name : String) : Except Failure String :=
  if IsIdentifier name then .ok (String.ofList (quotedName name)) else .error .unvalidatedName

/-- The text of a column, which quotes both of its names. -/
def renderColumn (column : ColumnName) : Except Failure String := do
  let table ← quoteName column.table
  let column ← quoteName column.column
  return table ++ "." ++ column

/-- The text of a join condition, which quotes all of its names. -/
def renderCondition (condition : JoinCondition) : Except Failure String := do
  let left ← renderColumn condition.left
  let right ← renderColumn condition.right
  return left ++ " = " ++ right

/-- The name if it is an identifier and can be quoted. -/
def quotedIdentifier (role name : String) : Except Failure String := do
  let name ← identifier role name
  let _ ← quoteName name
  return name

/-- The text if it is given and not empty. -/
def nonempty? (text? : Option String) : Option String :=
  text?.filter (· != "")

/-- The column of a table if both names are identifiers. -/
def columnName (table column : String) : Except Failure ColumnName := do
  let table ← identifier "table" table
  let column ← identifier "column" column
  return ⟨table, column⟩

/-- The column of a table if both names are identifiers and can be quoted. -/
def quotedColumn (table column : String) : Except Failure ColumnName := do
  let column ← columnName table column
  let _ ← renderColumn column
  return column

/-- The column that a specification selects. An aggregate is always renamed, if need be to the name
of its column. -/
def selectItem (spec : ColumnSpec) : Except Failure SelectItem := do
  let column ← quotedColumn spec.table spec.column
  match nonempty? spec.aggregate with
  | some given =>
    match Aggregate.ofText? given with
    | none => throw (.report (.aggregate given))
    | some aggregate =>
      match nonempty? spec.label with
      | some label => return ⟨column, some aggregate, some (← quotedIdentifier "alias" label)⟩
      | none =>
        let _ ← quoteName spec.column
        return ⟨column, some aggregate, some spec.column⟩
  | none =>
    match nonempty? spec.label with
    | some label => return ⟨column, none, some (← quotedIdentifier "alias" label)⟩
    | none => return ⟨column, none, none⟩

/-- The join that a specification asks for. -/
def join (spec : JoinSpec) : Except Failure Join := do
  let table ← quotedIdentifier "join table" spec.table
  let condition ← (joinCondition spec.condition).mapError fun defect ↦ .report (.join defect)
  let _ ← renderCondition condition
  return ⟨JoinKind.ofText? spec.kind, table, condition⟩

/-- The operator that a text names, equality if there is none. What an unknown text means depends on
the rules. -/
def operator (rules : Rules) : Option String → Except Failure Operator
  | none => .ok (.compare .equal)
  | some text =>
    match Operator.ofText? text with
    | some operator => .ok operator
    | none =>
      if rules.strictOperators then .error (.report (.operator text))
      else .ok (.compare .equal)

/-- The value stands for the missing value, as null or by its name. -/
def isNullLiteral : Json → Bool
  | .null => true
  | .text text => text == "NULL"
  | _ => false

/-- The test of a column by an operator and a value. Membership in the empty list is no test. -/
def test? (operator : Operator) (value : Json) : Except Failure (Option (Test Json)) :=
  match operator with
  | .compare comparison => .ok (some (.compare comparison value))
  | .among =>
    match value with
    | .list [] => .ok none
    | .list values => .ok (some (.among values))
    | _ => .error (.report .notAList)
  | .isNull =>
    if isNullLiteral value then .ok (some .isNull) else .error (.report (.notNull operator))
  | .isNotNull =>
    if isNullLiteral value then .ok (some .isNotNull) else .error (.report (.notNull operator))

/-- The filter that a specification asks for, if it restricts anything. -/
def filter? (rules : Rules) (spec : FilterSpec) : Except Failure (Option (Filter Json)) := do
  let column ← quotedColumn spec.table spec.column
  let operator ← operator rules spec.operator
  let test ← test? operator spec.value
  return test.map fun test ↦ ⟨column, test⟩

/-- The order that a specification asks for. -/
def orderKey : OrderSpec → Except Failure OrderKey
  | .plain column => return ⟨← quotedIdentifier "order by column" column, .ascending⟩
  | .directed column direction =>
    return ⟨← quotedIdentifier "order by column" column, Direction.ofText? direction⟩

/-- The query that a configuration asks for. Joins count only if there are several tables. -/
def ofConfig (rules : Rules) (config : ReportConfig) : Except Failure (Query Json) :=
  match config.tables with
  | [] => .error (.report .noTables)
  | source :: others => do
    if config.columns.isEmpty then throw (.report .noColumns)
    let source ← quotedIdentifier "table" source
    let others ← others.mapM (quotedIdentifier "table")
    let selection ← config.columns.mapM selectItem
    let joins ← if others.isEmpty then pure [] else config.joins.mapM join
    let filters ← config.filters.mapM (filter? rules)
    let groups ← config.groups.mapM (quotedIdentifier "group by column")
    let order ← config.order.mapM orderKey
    let limit ← limitOf rules.greatestLimit config.limit
    let limit ← writableLimit limit
    return { selection, source, joins, filters := filters.reduceOption, groups, order, limit }

/-- The text itself if it is a single statement that selects. -/
def checkSingleSelect (bounds : Sql.Bounds) (text : List Char) : Except Failure (List Char) := do
  let outlines ← (Sql.outlines bounds text).mapError .excess
  if Sql.isSingleSelect outlines then return text else throw .notSingleSelect

/-- The text and values of a query. The text is given out only if it is a single statement that
selects. -/
def assemble (bounds : Sql.Bounds) (query : Query Json) : Except Failure Compiled := do
  let text ← checkSingleSelect bounds query.text
  return ⟨String.ofList text, query.parameters⟩

/-- The query text and values that a configuration asks for. -/
def compile (rules : Rules) (config : ReportConfig) : Except Failure Compiled := do
  assemble rules.bounds (← ofConfig rules config)

/-- The configuration that a JSON value describes. -/
def configOf (value : Json) : Except Failure ReportConfig :=
  match value with
  | .object _ =>
    (ReportConfig.reader [] value).toExcept.mapError fun defects ↦ .report (.malformed defects)
  | _ => .error (.report .notAnObject)

/-- The configuration that a JSON value describes, for callers that want the defects as such. -/
def modelOf (value : Json) : Except Failure ReportConfig :=
  (ReportConfig.reader [] value).toExcept.mapError (.misshapen "ReportConfig")

/-- The query text and values that a JSON value asks for. -/
def build (rules : Rules) (value : Json) : Except Failure Compiled := do
  compile rules (← configOf value)

end TenantReporting.Query
