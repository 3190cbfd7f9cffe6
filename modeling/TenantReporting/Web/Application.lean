import TenantReporting.Web.CrossOrigin
import TenantReporting.Web.Observation
import TenantReporting.Web.Resource

/-!
# The application

A request passes through several parts on its way to a resource: preflights are answered first, then
the exchange is observed, and problems are settled by those who know how to answer them. What nobody
expected ends the exchange: it is logged, and the answer tells nothing about it.
-/

namespace TenantReporting.Web

namespace Application

/-- Has a request served by the resource that it is about. -/
def route (application : Application) (request : Request) (state : ApplicationState) :
    Resource.Served :=
  match Resource.at? request.path with
  | some resource =>
    if resource.methods.contains request.method then
      resource.serve application.service request state
    else (.error (.methodNotAllowed resource.methods), state)
  | none =>
    match Resource.meant? request.path with
    | some path => (.ok { status := 307, headers := [("location", path)] }, state)
    | none => (.error .noSuchResource, state)

/-- Has a request served and settles the problems that can be expected. -/
def handler (application : Application) : Handler := fun exchange state ↦
  match application.route exchange.request state with
  | (.ok response, state) => (.ok response, state)
  | (.error (.unexpected failure), state) => (.error failure, state)
  | (.error problem, state) => problem.settle application exchange state

/-- The answer to a request that nobody in the application could answer. -/
def unanswered : Response :=
  .ofText 500 (statusPhrase 500)

/-- Ends an exchange in which something unexpected happened. -/
def abandon (application : Application) (request : Request) (failure : Failure)
    (state : ApplicationState) : Response × ApplicationState :=
  if request.isAddressed then
    let problem := Problem.unexpected failure
    (Problem.failureResponse, (problem.settle application (exchangeOf request) state).2)
  else (unanswered, state)

/-- Answers a request that is no preflight; `share` completes every answer but those to failures. -/
def answer (application : Application) (share : Response → Response) (request : Request)
    (state : ApplicationState) : Response × ApplicationState :=
  match observed application.identity application.handler request state with
  | (.ok response, state) => (share response, state)
  | (.error failure, state) => application.abandon request failure state

/-- Answers a request. -/
def respond (application : Application) (request : Request) (state : ApplicationState) :
    Response × ApplicationState :=
  match request.headers.value? "origin" with
  | none => application.answer id request state
  | some origin =>
    match CrossOrigin.preflightMethod? request with
    | some method => (CrossOrigin.preflight request origin method, state)
    | none => application.answer (CrossOrigin.share origin) request state

/-- The state after the application has been shut down, which closes all pools. -/
def shutDown (state : ApplicationState) : ApplicationState :=
  state.withService
    { state.service with registry := state.service.registry.disposeAll }

end Application

end TenantReporting.Web
