import TenantReporting.Web.Exchange
import TenantReporting.Web.Response

/-!
# Observing exchanges

Requests are observed while others answer them: their body is captured, the time is taken, and the
answer is logged once it has been sent. Answers that report an error are left to those who made
them. Requests for documentation are not observed. Which requests these are is told by their
address, so a request without one goes no further.
-/

namespace TenantReporting.Web

/-- A part of the application that answers requests. -/
abbrev Handler := Exchange → Operation Response

/-- The body of an answer as it is logged. -/
def recordedResponseBody (body : List UInt8) : String :=
  if body.isEmpty then "[Response body not available]" else Text.textOfUtf8 body

/-- The answer is logged by those who observe: it reports no error and brings no task of its own. -/
def Response.isObserved (response : Response) : Bool :=
  decide (response.status < 400) && !response.hasFollowUp

/-- The exchange with a request whose body is captured, unless the request is for documentation. -/
def exchangeOf (request : Request) : Exchange :=
  if request.isForDocumentation then { request }
  else { request, captured := some (Text.textOfUtf8 request.body) }

/-- Has a request answered and logs the answer. -/
def observed (identity : Identity) (handler : Handler) (request : Request) :
    Operation Response := fun state ↦
  match request.addressFault? with
  | some fault => (.error (.address fault), state)
  | none =>
    let exchange := exchangeOf request
    match handler exchange state with
    | (.error failure, next) => (.error failure, next)
    | (.ok response, next) =>
      if !request.isForDocumentation && response.isObserved then
        let duration := (next.now - state.now) * Calendar.millisecondsPerTick
        (.ok response,
          next.record identity exchange response.status (recordedResponseBody response.body)
            (some duration))
      else (.ok response, next)

end TenantReporting.Web
