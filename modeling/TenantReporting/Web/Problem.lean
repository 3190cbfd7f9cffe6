import TenantReporting.Web.Body
import TenantReporting.Web.Exchange
import TenantReporting.Web.Response
import TenantReporting.Web.Status

/-!
# Problems

What can stand in the way of answering a request, what the client is then told, and what is logged
about it. The logged text is more explicit than the answer; the status code is the same in both.
-/

namespace TenantReporting.Web

open Shape (Defect Step)

/-! ### Listing defects -/

mutual

/-- The value with every part that is neither a list nor an object turned into text. What is listed
has been read from a request, so its integers can be written. -/
def asTexts : Json → Json
  | .list items => .list (itemsAsTexts items)
  | .object entries => .object (entriesAsTexts entries)
  | .text value => .text value
  | .integer value => .text (toString value)
  | value => .text value.word

/-- The items with all their parts turned into text. -/
def itemsAsTexts : List Json → List Json
  | [] => []
  | item :: items => asTexts item :: itemsAsTexts items

/-- The entries with all parts of their values turned into text. -/
def entriesAsTexts : List (String × Json) → List (String × Json)
  | [] => []
  | (key, value) :: entries => (key, asTexts value) :: entriesAsTexts entries

end

/-- A step of a path as text. -/
def stepText : Step → String
  | .key name => Text.quoted name
  | .item index => toString index

/-- The path to a defect as text. -/
def pathText (path : List Step) : String :=
  match path.map stepText with
  | [step] => "(" ++ step ++ ",)"
  | steps => "(" ++ ", ".intercalate steps ++ ")"

/-- A defect in a list of defects, with its path in the given form. -/
def listedDefect (form : List Step → Json) (defect : Defect) : Json :=
  let context := match defect.flaw.context? with
    | some entries => [("ctx", Json.object entries)]
    | none => []
  .object
    ([("type", .text defect.flaw.code), ("loc", form defect.path),
      ("msg", .text defect.flaw.message), ("input", defect.found)] ++ context)

/-- A list of defects as it is logged, and as it is answered. -/
structure DefectList where
  logged : Json
  answered : Json

/-- The list of given defects. Paths are logged as lists and answered as texts. -/
def DefectList.ofDefects (defects : List Defect) : DefectList :=
  { logged := .list (defects.map (listedDefect fun path ↦ .list (path.map Step.toJson)))
    answered := asTexts (.list (defects.map (listedDefect fun path ↦ .text (pathText path)))) }

/-- The list that a value is. -/
def DefectList.ofJson (defects : Json) : DefectList :=
  { logged := defects, answered := asTexts defects }

/-! ### Problems -/

/-- What stands in the way of answering a request. -/
inductive Problem where
  /-- The report cannot be made. -/
  | report (kind : ErrorKind) (message : String)
  /-- The request does not have the right shape. -/
  | misshapenRequest (defects : DefectList)
  /-- The answer would not have the right shape. -/
  | misshapenAnswer (defects : Json)
  /-- The request is refused with a status code. Without a detail the code's phrase stands in. -/
  | refused (status : Nat) (detail : Json) (headers : Option (List (String × String)))
  /-- There is nothing at the path of the request. -/
  | noSuchResource
  /-- What is at the path of the request knows other methods only. -/
  | methodNotAllowed (allowed : List String)
  /-- The body of the request is no text. -/
  | unreadableBody
  /-- Nobody expected this. -/
  | unexpected (failure : Failure)

namespace Problem

/-- The problem behind a failure: what reporting itself defines is reported, and everything else is
unexpected. -/
def ofFailure : Failure → Problem
  | .report error => .report error.kind error.message
  | failure => .unexpected failure

/-- The status code of the answer. -/
def status : Problem → Nat
  | report kind _ => kind.status
  | misshapenRequest _ => 422
  | misshapenAnswer _ => 500
  | refused status _ _ => status
  | noSuchResource => 404
  | methodNotAllowed _ => 405
  | unreadableBody => 400
  | unexpected _ => 500

/-- A report error as it is answered and logged. -/
def reportContent (kind : ErrorKind) (message : String) : Json :=
  .object
    [("success", .bool false), ("error", .text kind.name), ("detail", .text message)]

/-- The detail of a refusal. -/
def refusalDetail (status : Nat) : Json → Json
  | .null => .text (statusPhrase status)
  | detail => detail

/-- The headers of a refusal as they are logged. -/
def loggedHeaders : Option (List (String × String)) → Json
  | some headers => .object (headers.map fun header ↦ (header.1, .text header.2))
  | none => .null

/-- What is logged about a problem. Refusals that are no errors are not logged, nor are requests
that do not reach what they are meant for. -/
def logged? (traceback : Failure → String) : Problem → Option Json
  | report kind message => some (reportContent kind message)
  | misshapenRequest defects => some defects.logged
  | misshapenAnswer defects => some defects
  | refused status detail headers =>
    if status < 400 then none
    else some (.object
      [("detail", refusalDetail status detail), ("headers", loggedHeaders headers)])
  | noSuchResource => none
  | methodNotAllowed _ => none
  | unreadableBody => none
  | unexpected failure =>
    some (.object
      [("error", .text failure.message), ("type", .text failure.name),
       ("traceback", .text (traceback failure))])

/-- The answer to a request that failed in a way that nobody expected. -/
def failureResponse : Response :=
  .detail 500 (statusPhrase 500)

/-- The answer. A detail with a number that is not finite cannot be written. -/
def response : Problem → Except Failure Response
  | report kind message => .ok (.ofJson Json.errorStyle kind.status (reportContent kind message))
  | misshapenRequest defects =>
    .ok (.ofJson Json.errorStyle 422 (.object [("detail", defects.answered)]))
  | misshapenAnswer _ => .ok (.detail 500 "Internal Server Error: Response validation failed.")
  | refused status detail headers =>
    let content := Json.object [("detail", refusalDetail status detail)]
    if content.isFinite then
      let answer := Response.ofJson Json.errorStyle status content
      .ok { answer with headers := Headers.received (headers.getD []) }
    else .error .unprintableNumber
  | noSuchResource => .ok (.detail 404 (statusPhrase 404))
  | methodNotAllowed allowed =>
    let answer := Response.detail 405 (statusPhrase 405)
    .ok { answer with headers := [("allow", ", ".intercalate allowed)] }
  | unreadableBody => .ok (.detail 400 "There was an error parsing the body")
  | unexpected _ => .ok failureResponse

/-- What is told of the problem has been taken from the request, not from a database. -/
def quotesRequest : Problem → Bool
  | report kind _ => kind.isRefusal
  | misshapenRequest _ => true
  | unexpected (.numeral _) => true
  | _ => false

/-- The stand-ins for surrogates in what is told of a problem of the request. -/
def standIns (request : Request) (problem : Problem) : Text.StandIns :=
  if problem.quotesRequest then request.standIns else []

/-- The answer as it is sent, where `logged` is the text that is logged in full Unicode. An answer
that would show a surrogate cannot be sent, nor can one about an object with a surrogate in one of
its keys, which is listed under this key. -/
def sent (standIns : Text.StandIns) (logged : String) (problem : Problem) :
    Except Failure Response := do
  let answer ← problem.response
  if standIns.isEmpty then return answer
  else
    match (standIns.fault? answer.text).or (standIns.fault? logged) with
    | some fault => throw (.unencodable fault)
    | none => return { answer with body := Text.utf8Bytes (standIns.restored answer.text) }

/-- Logs a problem and answers the request. What has been logged stays, whether or not the answer
can be sent. A request without an address cannot be logged, and then it is not answered either. -/
def settle (application : Application) (exchange : Exchange) (problem : Problem) :
    Operation Response := fun state ↦
  match problem.logged? application.traceback, exchange.request.addressFault? with
  | none, _ => (problem.response, state)
  | some _, some fault => (.error (.address fault), state)
  | some content, none =>
    let standIns := problem.standIns exchange.request
    let text := standIns.restored (Json.print Json.loggedStyle content)
    (problem.sent standIns (Json.print Json.errorStyle content),
      state.record application.identity exchange problem.status text none)

end Problem

end TenantReporting.Web
