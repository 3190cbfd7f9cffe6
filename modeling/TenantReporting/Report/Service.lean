import TenantReporting.Calendar
import TenantReporting.Query.Compile
import TenantReporting.Report.ExecutionLog
import TenantReporting.Report.Rendering
import TenantReporting.Shape.Reader
import TenantReporting.Tenancy.Registry

/-!
# The reporting service

The service compiles report configurations, executes them on tenant databases, renders the rows and
keeps the log of executions. Everything that can be refused is refused before a database is asked.
Whether the log can be written never changes the outcome of a report.
-/

namespace TenantReporting.Report

open Tenancy (Registry Tenants TableDescription)

/-- How a service is set up. -/
structure Service where
  tenants : Tenants
  rules : Query.Rules := {}
  renderers : Renderers := noRenderers
  keepsLog : Bool := true

/-- What a service works on: the registry of pools and the log of executions. -/
structure ServiceState where
  registry : Registry := {}
  log : ExecutionLog := {}

/-- A report configuration as callers hand it over: as a JSON value, or read already. -/
inductive ConfigSource where
  | unread (value : Json)
  | ready (config : ReportConfig)

/-- The configuration that is handed over, if it has the right shape. -/
def ConfigSource.read : ConfigSource → Except Failure ReportConfig
  | .unread value => Query.configOf value
  | .ready config => .ok config

namespace Service

/-- An operation of the service. -/
abbrev Operation (α : Type) := ServiceState → Except Failure α × ServiceState

/-- The time in ticks. -/
def now (state : ServiceState) : Int :=
  state.registry.backend.clock

/-- The query of a configuration, without asking any database. -/
def preview (service : Service) (source : ConfigSource) : Except Failure Query.Compiled :=
  match source.read with
  | .error failure => .error failure
  | .ok config => Query.compile service.rules config

/-! ### Execution -/

/-- The outcome of an execution is recorded in the log: rows, and failures of the database. -/
def isRecorded : Except Failure (List Json) → Bool
  | .ok _ => true
  | .error (.report error) => !error.kind.isRefusal
  | .error _ => false

/-- What the log is told about an execution that began at `start` and ended at `stop`. -/
def attemptOf (tenant : String) (format : Format) (tableCount : Nat) (start stop : Int)
    (outcome : Except Failure (List Json)) : Attempt :=
  let attempt : Attempt :=
    { tenant := some tenant
      format := format.name
      tableCount := some tableCount
      duration := some (.ofInt ((stop - start) * Calendar.millisecondsPerTick)) }
  match outcome with
  | .ok rows => { attempt with rowCount := some rows.length }
  | .error failure => { attempt with success := some false, error := some failure.message }

/-- Writes an attempt to the log, if there is one. An attempt that cannot be written is lost. -/
def note (service : Service) (attempt : Attempt) (state : ServiceState) : ServiceState :=
  if service.keepsLog then { state with log := (state.log.record (now state) attempt).2 } else state

/-- Executes a compiled query on a tenant's database. -/
def execute (service : Service) (tenant : String) (compiled : Query.Compiled) (format : Format)
    (tableCount : Nat) : Operation (List Json) := fun state ↦
  let run := Registry.withConnection service.tenants tenant fun connection ↦
    Registry.execute service.tenants connection compiled.text compiled.parameters
  match run state.registry with
  | (outcome, registry) =>
    let finished := { state with registry }
    if isRecorded outcome then
      let attempt := attemptOf tenant format tableCount (now state) (now finished) outcome
      (outcome, service.note attempt finished)
    else (outcome, finished)

/-- The rows of a report. -/
def buildReport (service : Service) (tenant : String) (source : ConfigSource) :
    Operation (List Json) := fun state ↦
  match source.read with
  | .error failure => (.error failure, state)
  | .ok config =>
    match Query.compile service.rules config with
    | .error failure => (.error failure, state)
    | .ok compiled => service.execute tenant compiled .json config.tables.length state

/-- A report rendered in the format that a value names. -/
def generateReport (service : Service) (tenant : String) (source : ConfigSource) (format : Json) :
    Operation Rendered := fun state ↦
  match checkFormat service.renderers format with
  | .error failure => (.error failure, state)
  | .ok format =>
    match source.read with
    | .error failure => (.error failure, state)
    | .ok config =>
      match Query.compile service.rules config with
      | .error failure => (.error failure, state)
      | .ok compiled =>
        match service.execute tenant compiled format config.tables.length state with
        | (.error failure, state) => (.error failure, state)
        | (.ok rows, state) => (renderAs service.renderers format (.list rows), state)

/-! ### Tables and history -/

/-- A name that has to be text, as a defect if it is not. -/
def nameDefects (path : List Shape.Step) (name : Json) : List Shape.Defect :=
  match name with
  | .text _ => []
  | name => [⟨.notText, path, name⟩]

/-- The defects of the description of a table. -/
def tableDefects (table : TableDescription) : List Shape.Defect :=
  nameDefects [.key "name"] table.name
    ++ table.columns.zipIdx.flatMap fun (column, index) ↦
      nameDefects [.key "columns", .item index, .key "name"] column.name

/-- The description itself if its names are text. -/
def checkTable (table : TableDescription) : Except Failure TableDescription :=
  match tableDefects table with
  | [] => .ok table
  | defects => .error (.misshapen "TableDescription" defects)

/-- The tables of a tenant's database. -/
def listTables (service : Service) (tenant : String) : Operation (List TableDescription) :=
  fun state ↦
    let run := Registry.withConnection service.tenants tenant fun connection ↦
      Registry.describeTables service.tenants connection ""
    match run state.registry with
    | (.error failure, registry) => (.error failure, { state with registry })
    | (.ok tables, registry) => (tables.mapM checkTable, { state with registry })

/-- The recorded executions of a tenant, none if there is no log. -/
def history (service : Service) (tenant : String) (failuresOnly : Bool) (limit : Int)
    (state : ServiceState) : List LogEntry :=
  if service.keepsLog then state.log.history tenant failuresOnly limit else []

end Service

end TenantReporting.Report
