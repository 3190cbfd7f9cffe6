import TenantReporting.Web.Content
import TenantReporting.Web.HistoryRequest
import TenantReporting.Web.Problem
import TenantReporting.Web.ReportRequest

/-!
# Resources

What requests can be about. Of several problems of a request the first one counts: a body that is no
JSON, then a missing tenant, then everything else about the shape of the request.
-/

namespace TenantReporting.Web

/-- What a request can be about. -/
inductive Resource where
  /-- The rows of a report. -/
  | rows
  /-- A rendered report. -/
  | rendered
  /-- The query of a report. -/
  | query
  /-- The tables that reports can use. -/
  | tables
  /-- The history of executions. -/
  | executions
  /-- The pool of the tenant. -/
  | pools
  /-- A page of the documentation. -/
  | page (path : String)
deriving DecidableEq, Repr

namespace Resource

/-- The path of a resource. -/
def path : Resource → String
  | rows => "/api/reports/build"
  | rendered => "/api/reports/generate"
  | query => "/api/reports/preview"
  | tables => "/api/reports/tables"
  | executions => "/api/reports/executions"
  | pools => "/api/reports/pools"
  | page path => path

/-- The methods that a resource knows. -/
def methods : Resource → List String
  | rows => ["POST"]
  | rendered => ["POST"]
  | query => ["POST"]
  | tables => ["POST"]
  | executions => ["GET"]
  | pools => ["GET"]
  | page _ => ["GET", "HEAD"]

/-- Every resource. -/
def all : List Resource :=
  [rows, rendered, query, tables, executions, pools, page "/api/docs", page "/api/redoc",
   page "/api/openapi.json", page "/docs/oauth2-redirect"]

/-- The path without a line feed at its end. -/
def withoutLineFeed (path : String) : String :=
  match path.toList.reverse with
  | '\n' :: reversed => String.ofList reversed.reverse
  | _ => path

/-- The resource at a path. A line feed at the end of the path does not count. -/
def at? (path : String) : Option Resource :=
  all.find? fun resource ↦ resource.path == withoutLineFeed path

/-- The path without slashes at its end. -/
def withoutSlashes (path : String) : String :=
  String.ofList (path.toList.reverse.dropWhile (· == '/')).reverse

/-- The path that is meant by one with slashes at its end. -/
def meant? (path : String) : Option String :=
  let meant := withoutSlashes path
  if meant != path && (at? meant).isSome then some meant else none

/-! ### Reading requests -/

/-- The tenant of a request, who has to be named. -/
def tenantOf (request : Request) : Except Problem String :=
  match request.tenant? with
  | none => .error (.refused 400 (.text "X-Agency-Database header is required") none)
  | some "" => .error (.refused 400 (.text "X-Agency-Database header is required") none)
  | some tenant => .ok tenant

/-- The defect of a body that is no JSON. -/
def jsonDefect (fault : Json.ReadFault) : Shape.Defect :=
  ⟨.notJson fault.problem.message, [.key "body", .item fault.position], .object []⟩

/-- The body of a request. -/
def bodyOf (request : Request) : Except Problem Body :=
  match Body.of request with
  | .ok body => .ok body
  | .error .unreadable => .error .unreadableBody
  | .error (.malformed fault) => .error (.misshapenRequest (.ofDefects [jsonDefect fault]))

/-- The outcome of reading a part of a request. -/
def checked {α : Type} (outcome : Except (List Shape.Defect) α) : Except Problem α :=
  outcome.mapError fun defects ↦ .misshapenRequest (.ofDefects defects)

/-- The tenant and the report that a request asks for. -/
def tenantAndReport (reader : Shape.Reader ReportRequest) (request : Request) :
    Except Problem (String × ReportRequest) := do
  let body ← bodyOf request
  let tenant ← tenantOf request
  let report ← checked (ReportRequest.ofBody reader body)
  return (tenant, report)

/-- The report whose query a request asks for. -/
def reportOf (request : Request) : Except Problem ReportRequest := do
  let body ← bodyOf request
  checked (ReportRequest.ofBody ReportRequest.rowsReader body)

/-- The tenant and the part of the history that a request asks for. -/
def tenantAndHistory (request : Request) : Except Problem (String × HistoryRequest) := do
  let tenant ← tenantOf request
  let history ← checked (HistoryRequest.ofQuery request.query)
  return (tenant, history)

/-- The tenant database that a request is about. -/
def databaseOf (request : Request) : Except Problem String := do
  let tenant ← tenantOf request
  (Query.databaseName tenant).mapError fun defect ↦ .ofFailure (.report (.tenant defect))

/-! ### Serving requests -/

/-- The query of a report that a request asks for, if its values can be written in an answer. -/
def previewOf (service : Report.Service) (request : Request) (report : ReportRequest) :
    Except Failure Query.Compiled := do
  let compiled ← service.preview (.ready report.config)
  match (Json.list compiled.parameters).texts.findSome? request.standIns.fault? with
  | some fault => throw (.unserializable fault)
  | none => return compiled

/-- The outcome of serving a request, and the next state. -/
abbrev Served := Except Problem Response × ApplicationState

/-- Continues with what a request asks for. -/
def continueWith {α : Type} (asked : Except Problem α) (state : ApplicationState)
    (serve : α → Served) : Served :=
  match asked with
  | .ok asked => serve asked
  | .error problem => (.error problem, state)

/-- The outcome of an operation of the reporting service. -/
def ofService {α : Type} (state : ApplicationState)
    (result : Except Failure α × Report.ServiceState) (respond : α → Response) : Served :=
  match result with
  | (.ok value, service) => (.ok (respond value), state.withService service)
  | (.error failure, service) => (.error (.ofFailure failure), state.withService service)

/-- Serves a request about a resource. -/
def serve (service : Report.Service) (resource : Resource) (request : Request)
    (state : ApplicationState) : Served :=
  match resource with
  | rows =>
    continueWith (tenantAndReport ReportRequest.rowsReader request) state fun (tenant, report) ↦
      ofService state (service.buildReport tenant (.ready report.config) state.service)
        fun rows ↦ .success (.list rows)
  | rendered =>
    continueWith (tenantAndReport ReportRequest.renderedReader request) state
      fun (tenant, report) ↦
        let format := Json.text report.format.name
        ofService state
          (service.generateReport tenant (.ready report.config) format state.service)
          fun rendered ↦ .success (renderedContent rendered)
  | query =>
    continueWith (reportOf request) state fun report ↦
      ofService state (previewOf service request report, state.service)
        fun compiled ↦ .success (queryContent compiled)
  | tables =>
    continueWith (tenantOf request) state fun tenant ↦
      ofService state (service.listTables tenant state.service)
        fun tables ↦ .success (.list (tables.map tableContent))
  | executions =>
    continueWith (tenantAndHistory request) state fun (tenant, asked) ↦
      let entries := service.history tenant asked.failuresOnly asked.limit state.service
      (.ok (.result (.list (entries.map executionContent))), state)
  | pools =>
    continueWith (databaseOf request) state fun database ↦
      let pools := state.service.registry.statistics service.tenants (some database)
      (.ok (.result (.list (pools.map poolContent))), state)
  | page _ => (.ok { status := 200, contentType := some "text/html; charset=utf-8" }, state)

end Resource

end TenantReporting.Web
