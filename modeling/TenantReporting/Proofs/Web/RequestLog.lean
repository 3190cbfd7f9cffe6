import Mathlib.Data.List.TakeWhile
import TenantReporting.Proofs.Outcome
import TenantReporting.Proofs.Web.Answer

/-!
# Which requests are logged

An answer that reports no error is logged by those who observe the exchange, and one that does by
those who settle the problem behind it. Serving a request ends with an answer of the first kind or
with a problem of the second (`serve_loggable`), so each request leaves one entry, with three
exceptions: a request without an address does not get so far; three problems are answered without
anybody logging them, and they can be told from the request alone; and where a problem has been
logged but its answer cannot be sent, since it would show a surrogate of the request, that is logged
as well (`logged_once_iff`).
-/

namespace TenantReporting.Web

/-! ### Problems that are reported -/

namespace Problem

end Problem

namespace Resource

variable (request : Request)

end Resource

/-! ### Requests that nobody logs -/

namespace Resource

variable (service : Report.Service) (request : Request) (state : ApplicationState)

end Resource

/-! ### Answers -/

namespace Application

variable (application : Application) {request : Request} (state : ApplicationState)

variable {application state}

end Application

/-! ### Entries -/

/-- What does not belong to the path of an address, even where it occurs in a path. -/
def pathMarks : List Char :=
  ['\t', '\r', '\n', '?', '#']

/-- No mark of addresses occurs in the host and the path of the request, but for the slashes of the
path, which begins with one. -/
structure Request.IsPlain (request : Request) : Prop where
  host : ∀ c ∈ request.host.toList, c ∉ '/' :: pathMarks
  rooted : request.path.toList.head? = some '/'
  path : ∀ c ∈ request.path.toList, c ∉ pathMarks

/-- The entry tells of a request how it was answered. The path is the one in the address of the
request, which is the path of a plain request. -/
structure RequestEntry.TellsOf (entry : RequestEntry) (request : Request) (response : Response) :
    Prop where
  method : entry.method = request.method
  path : entry.path = request.address.path
  plain : request.IsPlain → entry.path = request.path
  status : entry.status = response.status

namespace Application

variable {application : Application} {request : Request} {state : ApplicationState}
  {share : Response → Response}

end Application

/-! ### Requests that reach the application -/

end TenantReporting.Web
