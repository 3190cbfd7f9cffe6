import TenantReporting.Failure
import TenantReporting.Json.Display

/-!
# Tenant stores

Each tenant has a database of its own. What is known of it here is how it answers: the `n`-th
attempt to set up an engine, to connect, to execute a statement or to inspect a schema succeeds or
fails as the store decides. Answers depend on the store and the number of requests made to it
before, and on nothing else.
-/

namespace TenantReporting.Tenancy

/-- The answer of a store to a statement: how long it takes, and the rows or a fault. -/
structure StatementAnswer where
  ticks : Int := 0
  outcome : Except StoreFault (List Json) := .ok []

/-- A column as a store lists it. Columns that do not say so may be null. -/
structure ColumnListing where
  name : Json
  type : String
  nullable : Option Json

/-- A table as a store lists it. -/
structure TableListing where
  name : Json
  columns : List ColumnListing

/-- A store by its answers. -/
structure Store where
  /-- The fault with which setting up an engine fails. -/
  setUp : Nat → Option StoreFault := fun _ ↦ none
  /-- The fault with which connecting fails. -/
  connect : Nat → Option StoreFault := fun _ ↦ none
  /-- How many connections of one engine may be out. -/
  capacity : Int := 5
  /-- The answer to a statement. -/
  statement : Nat → StatementAnswer := fun _ ↦ {}
  /-- The tables that an inspection of a schema finds, or the fault with which it fails. The empty
  name stands for the default schema. -/
  inspection : Nat → String → Except StoreFault (List TableListing) := fun _ _ ↦ .ok []
  /-- The engine can tell how many connections are out. -/
  countsConnections : Bool := true

/-- A column of a table that reports can use. -/
structure ColumnDescription where
  name : Json
  type : String
  nullable : Bool
deriving Repr

/-- A table that reports can use. -/
structure TableDescription where
  name : Json
  columns : List ColumnDescription
deriving Repr

/-- The description of a listed column. -/
def ColumnListing.describe (column : ColumnListing) : ColumnDescription :=
  ⟨column.name, column.type, (column.nullable.map Json.isSubstantial).getD true⟩

/-- The description of a listed table. -/
def TableListing.describe (table : TableListing) : TableDescription :=
  ⟨table.name, table.columns.map ColumnListing.describe⟩

/-- The descriptions of listed tables, in the order of their names. -/
def TableListing.describeAll (tables : List TableListing) : List TableDescription :=
  let byName (first second : TableListing) : Bool :=
    decide (first.name.givenText ≤ second.name.givenText)
  (tables.mergeSort byName).map TableListing.describe

end TenantReporting.Tenancy
