import TenantReporting.Report.Service
import TenantReporting.Web.RequestLog

/-!
# Exchanges

An exchange is a request while it is being answered. Answering works on the state of the reporting
service and on the log of requests.
-/

namespace TenantReporting.Web

/-- How the application is set up. -/
structure Application where
  service : Report.Service
  identity : Identity := {}
  /-- The account of where a failure that nobody expected came from. -/
  traceback : Failure → String := fun _ ↦ ""

/-- What the application works on. -/
structure ApplicationState where
  service : Report.ServiceState := {}
  requests : RequestLog := {}

/-- A request while it is being answered. -/
structure Exchange where
  request : Request
  /-- The text of the request's body, once it has been captured. -/
  captured : Option String := none

/-- The body of a request as it is logged. -/
def Exchange.recordedBody (exchange : Exchange) : String :=
  exchange.captured.getD "Request body not captured"

/-- An operation of the application. A failure is something that nobody expected. -/
abbrev Operation (α : Type) := ApplicationState → Except Failure α × ApplicationState

namespace ApplicationState

/-- The time in ticks. -/
def now (state : ApplicationState) : Int :=
  state.service.registry.backend.clock

/-- The state after an operation of the reporting service. -/
def withService (state : ApplicationState) (service : Report.ServiceState) : ApplicationState :=
  { state with service }

/-- The state after an exchange with a status and an answer has been logged. -/
def record (identity : Identity) (exchange : Exchange) (status : Nat) (responseBody : String)
    (duration : Option Int) (state : ApplicationState) : ApplicationState :=
  let outcome : Outcome := { status, requestBody := exchange.recordedBody, responseBody, duration }
  { state with requests := state.requests.write identity state.now exchange.request outcome }

/-- The state in which the logs can be written, or cannot. -/
def withLogs (writable : Bool) (state : ApplicationState) : ApplicationState :=
  { service := { state.service with log := { state.service.log with writable } }
    requests := { state.requests with writable } }

end ApplicationState

end TenantReporting.Web
