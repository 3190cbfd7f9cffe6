import TenantReporting.Calendar
import TenantReporting.Json.Printer
import TenantReporting.Web.Host
import TenantReporting.Web.Request

/-!
# The log of requests

Each entry tells of a request how it was answered, in which form it came, and who served it.
Credentials never enter the log. Entries are numbered from one in the order of writing; while the
log cannot be written, what should enter it is lost and takes no number.
-/

namespace TenantReporting.Web

/-- Who serves requests. -/
structure Identity where
  user : String := unknownUser
  host : String := unknownHost
  application : String := "Unknown"
deriving DecidableEq, Repr

/-- An entry of the log. -/
structure RequestEntry where
  number : Nat
  /-- The time of writing in ticks. -/
  writtenAt : Int
  method : String
  path : String
  status : Nat
  tenant : Option String
  client : Option String
  /-- The headers without credentials, as a JSON document. -/
  headers : String
  requestBody : String
  responseBody : String
  /-- How many milliseconds the answer took, if that was measured. -/
  duration : Option Int
  userAgent : Option String
  identity : Identity
deriving DecidableEq, Repr

/-- What the log is told about the answer to a request. -/
structure Outcome where
  status : Nat
  requestBody : String
  responseBody : String
  duration : Option Int := none

/-- The log: its entries in the order of writing, and whether it can be written. -/
structure RequestLog where
  entries : List RequestEntry := []
  writable : Bool := true

/-- The entry for a request with the given number, time and outcome. -/
def RequestEntry.of (identity : Identity) (number : Nat) (now : Int) (request : Request)
    (outcome : Outcome) : RequestEntry :=
  { number
    writtenAt := now
    method := request.method
    path := request.address.path
    status := outcome.status
    tenant := request.tenant?
    client := request.client
    headers := Json.print Json.storedStyle (.object request.headers.listing)
    requestBody := outcome.requestBody
    responseBody := outcome.responseBody
    duration := outcome.duration
    userAgent := request.headers.value? "user-agent"
    identity }

/-- The log with a further entry, if it can be written. -/
def RequestLog.write (identity : Identity) (now : Int) (request : Request) (outcome : Outcome)
    (log : RequestLog) : RequestLog :=
  if log.writable then
    let entry := RequestEntry.of identity (log.entries.length + 1) now request outcome
    { log with entries := log.entries ++ [entry] }
  else log

end TenantReporting.Web
