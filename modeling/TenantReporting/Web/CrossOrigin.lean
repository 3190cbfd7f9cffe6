import TenantReporting.Web.Request
import TenantReporting.Web.Response

/-!
# Requests across origins

Pages of every origin may use the application, also with credentials. Before a page of another
origin does so, its browser asks in advance, by a preflight, for the method and the headers that the
page is going to use.
-/

namespace TenantReporting.Web

namespace CrossOrigin

/-- The methods that pages of other origins may use. -/
def methods : List String :=
  ["DELETE", "GET", "HEAD", "OPTIONS", "PATCH", "POST", "PUT", "QUERY"]

/-- For how many seconds the answer to a preflight holds. -/
def maxAge : Nat := 600

/-- The headers that allow an origin to use an answer. Where credentials are allowed the origin has
to be named, whether or not the request brings any, so the answer depends on it. -/
def permission (origin : String) : Headers :=
  [("access-control-allow-credentials", "true"), ("access-control-allow-origin", origin),
   ("vary", "Origin")]

/-- The answer as pages of an origin may use it. -/
def share (origin : String) (response : Response) : Response :=
  { response with headers := response.headers ++ permission origin }

/-- The method that a preflight asks for. -/
def preflightMethod? (request : Request) : Option String :=
  if request.method == "OPTIONS" then request.headers.value? "access-control-request-method"
  else none

/-- The answer to a preflight that asks for a method. Whatever headers it asks for are allowed. -/
def preflight (request : Request) (origin method : String) : Response :=
  let answer :=
    if methods.contains method then Response.ofText 200 "OK"
    else Response.ofText 400 "Disallowed CORS method"
  let asked := match request.headers.value? "access-control-request-headers" with
    | some names => [("access-control-allow-headers", names)]
    | none => []
  { answer with
    headers :=
      permission origin
        ++ [("access-control-allow-methods", ", ".intercalate methods),
            ("access-control-max-age", toString maxAge)]
        ++ asked }

end CrossOrigin

end TenantReporting.Web
