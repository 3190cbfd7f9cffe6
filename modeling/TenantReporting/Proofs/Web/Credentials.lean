import TenantReporting.Web.Application

/-!
# Credentials leave no trace

A request may carry credentials in its headers, which are meant for those who stand in front of the
application. Nobody in the application asks for them: a request without its credentials is answered
in the same way, and the same is logged about it (`respond_without_credentials`). So requests that
differ in their credentials only cannot be told apart afterwards (`credentials_leave_no_trace`).
-/

namespace TenantReporting.Web

namespace Headers

variable (headers : Headers)

/-- A value that is no credential is found without the credentials, too. -/
theorem value_without_credentials {name : String} (h : credentials.contains name = false) :
    headers.withoutCredentials.value? name = headers.value? name := by
  induction headers with
  | nil => rfl
  | cons header rest ih =>
      obtain ⟨key, value⟩ := header
      by_cases hkey : credentials.contains key = true
      · have hne : (name == key) = false := by
          rw [beq_eq_false_iff_ne]
          rintro rfl
          rw [hkey] at h
          cases h
        have hskip : withoutCredentials ((key, value) :: rest) = withoutCredentials rest :=
          List.filter_cons_of_neg (by simpa using hkey)
        rw [hskip, ih, value?, value?, List.lookup_cons, hne]
      · have hkeep : withoutCredentials ((key, value) :: rest) =
            (key, value) :: withoutCredentials rest :=
          List.filter_cons_of_pos (by simpa using hkey)
        rw [hkeep, value?, value?, List.lookup_cons, List.lookup_cons]
        cases name == key with
        | true => rfl
        | false => exact ih

theorem without_credentials_idempotent :
    headers.withoutCredentials.withoutCredentials = headers.withoutCredentials := by
  rw [withoutCredentials, withoutCredentials, List.filter_filter]
  simp only [Bool.and_self]

/-- A listing of headers shows no credentials. -/
theorem listing_without_credentials : headers.withoutCredentials.listing = headers.listing := by
  rw [listing, without_credentials_idempotent, listing]

end Headers

/-! ### What a request asks for -/

/-- The request without the headers that carry credentials. -/
def Request.withoutCredentials (request : Request) : Request :=
  { request with headers := request.headers.withoutCredentials }

namespace Request

variable (request : Request)

theorem method_without_credentials : request.withoutCredentials.method = request.method := rfl

theorem path_without_credentials : request.withoutCredentials.path = request.path := rfl

theorem query_without_credentials : request.withoutCredentials.query = request.query := rfl

theorem tenant_without_credentials :
    request.withoutCredentials.tenant? = request.tenant? :=
  request.headers.value_without_credentials (by decide)

theorem address_without_credentials :
    request.withoutCredentials.address = request.address := by
  have hhost : request.withoutCredentials.headers.value? "host" = request.headers.value? "host" :=
    request.headers.value_without_credentials (by decide)
  rw [address, host, hhost, path_without_credentials, address, host]

theorem address_fault_without_credentials :
    request.withoutCredentials.addressFault? = request.addressFault? := by
  rw [addressFault?, address_without_credentials, query_without_credentials, addressFault?]

theorem is_addressed_without_credentials :
    request.withoutCredentials.isAddressed = request.isAddressed := by
  rw [isAddressed, address_fault_without_credentials, isAddressed]

theorem is_for_documentation_without_credentials :
    request.withoutCredentials.isForDocumentation = request.isForDocumentation := by
  rw [isForDocumentation, address_without_credentials, isForDocumentation]

theorem brings_json_without_credentials :
    request.withoutCredentials.bringsJson = request.bringsJson := by
  have htype : request.withoutCredentials.headers.value? "content-type" =
    request.headers.value? "content-type" := request.headers.value_without_credentials (by decide)
  rw [bringsJson, htype]
  rfl

theorem body_without_credentials : Body.of request.withoutCredentials = Body.of request := by
  rw [Body.of, brings_json_without_credentials]
  rfl

theorem stand_ins_without_credentials :
    request.withoutCredentials.standIns = request.standIns := by
  rw [standIns, brings_json_without_credentials]
  rfl

end Request

open Request

namespace Resource

variable (service : Report.Service) (request : Request) (state : ApplicationState)

theorem tenant_of_without_credentials :
    tenantOf request.withoutCredentials = tenantOf request := by
  rw [tenantOf, tenant_without_credentials, tenantOf]

theorem body_of_without_credentials :
    bodyOf request.withoutCredentials = bodyOf request := by
  rw [bodyOf, body_without_credentials, bodyOf]

theorem preview_of_without_credentials (report : ReportRequest) :
    previewOf service request.withoutCredentials report = previewOf service request report := by
  rw [previewOf, stand_ins_without_credentials, previewOf]

theorem serve_without_credentials (resource : Resource) :
    resource.serve service request.withoutCredentials state =
      resource.serve service request state := by
  cases resource <;>
    simp only [serve, tenantAndReport, reportOf, tenantAndHistory, databaseOf,
      tenant_of_without_credentials, body_of_without_credentials, query_without_credentials,
      preview_of_without_credentials]

end Resource

/-! ### What is logged -/

/-- The exchange with the request without its credentials. -/
def Exchange.withoutCredentials (exchange : Exchange) : Exchange :=
  { exchange with request := exchange.request.withoutCredentials }

section

variable (application : Application) (request : Request) (state : ApplicationState)

theorem exchange_of_without_credentials :
    exchangeOf request.withoutCredentials = (exchangeOf request).withoutCredentials := by
  unfold exchangeOf
  rw [is_for_documentation_without_credentials]
  split <;> rfl

/-- An entry of the log shows no credentials. -/
theorem entry_without_credentials (identity : Identity) (number : Nat) (now : Int)
    (outcome : Outcome) :
    RequestEntry.of identity number now request.withoutCredentials outcome =
      RequestEntry.of identity number now request outcome := by
  have hlisting : request.withoutCredentials.headers.listing = request.headers.listing :=
    request.headers.listing_without_credentials
  have hagent : request.withoutCredentials.headers.value? "user-agent" =
    request.headers.value? "user-agent" := request.headers.value_without_credentials (by decide)
  rw [RequestEntry.of, hlisting, hagent, tenant_without_credentials, address_without_credentials]
  rfl

theorem record_without_credentials (identity : Identity) (exchange : Exchange) (status : Nat)
    (responseBody : String) (duration : Option Int) :
    state.record identity exchange.withoutCredentials status responseBody duration =
      state.record identity exchange status responseBody duration := by
  have hentry (number : Nat) (outcome : Outcome) :
      RequestEntry.of identity number state.now exchange.withoutCredentials.request outcome =
        RequestEntry.of identity number state.now exchange.request outcome :=
    entry_without_credentials exchange.request identity number state.now outcome
  simp only [ApplicationState.record, RequestLog.write, hentry]
  rfl

theorem settle_without_credentials (exchange : Exchange) (problem : Problem) :
    problem.settle application exchange.withoutCredentials state =
      problem.settle application exchange state := by
  have haddress : exchange.withoutCredentials.request.addressFault? =
      exchange.request.addressFault? := address_fault_without_credentials exchange.request
  have hstandIns : problem.standIns exchange.withoutCredentials.request =
      problem.standIns exchange.request := by
    change problem.standIns exchange.request.withoutCredentials = _
    rw [Problem.standIns, stand_ins_without_credentials, Problem.standIns]
  unfold Problem.settle
  rw [haddress]
  split
  · rfl
  · rfl
  · dsimp only
    rw [record_without_credentials, hstandIns]

namespace Application

theorem handler_without_credentials (exchange : Exchange) :
    application.handler exchange.withoutCredentials state = application.handler exchange state := by
  have hroute : application.route exchange.withoutCredentials.request state =
      application.route exchange.request state := by
    change application.route exchange.request.withoutCredentials state = _
    unfold route
    rw [path_without_credentials, method_without_credentials]
    simp only [Resource.serve_without_credentials]
  unfold handler
  rw [hroute]
  rcases application.route exchange.request state with ⟨problem | response, next⟩
  · cases problem with
    | unexpected failure => rfl
    | _ => exact settle_without_credentials application next exchange _
  · rfl

theorem answer_without_credentials (share : Response → Response) :
    application.answer share request.withoutCredentials state =
      application.answer share request state := by
  have hobserved : observed application.identity application.handler request.withoutCredentials
      state = observed application.identity application.handler request state := by
    unfold observed
    rw [address_fault_without_credentials, exchange_of_without_credentials,
      is_for_documentation_without_credentials]
    dsimp only
    rw [handler_without_credentials]
    rcases application.handler (exchangeOf request) state with ⟨failure | response, next⟩
    · rfl
    · dsimp only
      rw [record_without_credentials]
  have habandon (failure : Failure) (state : ApplicationState) :
      application.abandon request.withoutCredentials failure state =
        application.abandon request failure state := by
    unfold abandon
    dsimp only
    rw [is_addressed_without_credentials, exchange_of_without_credentials,
      settle_without_credentials]
  unfold answer
  rw [hobserved]
  rcases observed application.identity application.handler request state with
    ⟨failure | response, next⟩
  · exact habandon failure next
  · rfl

/-- A request without its credentials is answered in the same way and leaves the same state. -/
theorem respond_without_credentials :
    application.respond request.withoutCredentials state = application.respond request state := by
  have hvalue {name : String} (h : Headers.credentials.contains name = false) :
      request.withoutCredentials.headers.value? name = request.headers.value? name :=
    request.headers.value_without_credentials h
  have hpreflight : CrossOrigin.preflightMethod? request.withoutCredentials =
      CrossOrigin.preflightMethod? request := by
    rw [CrossOrigin.preflightMethod?, hvalue (by decide), CrossOrigin.preflightMethod?]
    rfl
  have hanswer (origin method : String) :
      CrossOrigin.preflight request.withoutCredentials origin method =
        CrossOrigin.preflight request origin method := by
    rw [CrossOrigin.preflight, hvalue (by decide), CrossOrigin.preflight]
  unfold respond
  rw [hvalue (by decide), hpreflight]
  simp only [hanswer, answer_without_credentials]

end Application

end

/-! ### Requests that differ in their credentials -/

/-- The header, whose name may be written in any case, carries credentials. -/
def carriesCredentials (header : String × String) : Bool :=
  let name := String.ofList (header.1.toList.map Headers.small)
  name == "authorization" || name == "cookie" || name == "x-api-key"

/-- The headers that are left are those that were sent without carrying credentials. -/
theorem received_without_credentials (sent : List (String × String)) :
    (Headers.received sent).withoutCredentials =
      Headers.received (sent.filter fun header ↦ !carriesCredentials header) := by
  rw [Headers.received, Headers.withoutCredentials, List.filter_map]
  congr 1
  refine List.filter_congr fun header _ ↦ ?_
  simp only [Function.comp_apply, carriesCredentials, Headers.credentials, List.contains_cons,
    List.contains_nil, Bool.or_false, Bool.or_assoc]

/-- Two requests that are the same but for the headers with credentials, which each of them may have
several times, once or not at all, under names in any case and with any values, are answered in the
same way and leave the same state behind. In particular the same entries enter the log of requests,
whatever becomes of the requests. -/
theorem credentials_leave_no_trace (application : Application) (state : ApplicationState)
    (request : Request) (sent other : List (String × String))
    (h : (sent.filter fun header ↦ !carriesCredentials header) =
      other.filter fun header ↦ !carriesCredentials header) :
    application.respond { request with headers := Headers.received sent } state =
      application.respond { request with headers := Headers.received other } state := by
  have hsame : { request with headers := Headers.received sent }.withoutCredentials =
      { request with headers := Headers.received other }.withoutCredentials := by
    simp only [Request.withoutCredentials, received_without_credentials, h]
  rw [← Application.respond_without_credentials, hsame, Application.respond_without_credentials]

/-- A request without a tenant that is sent with credentials of every kind is refused like one that
is sent without, and its entry in the log lists the one header that carries none. -/
theorem secret_leaves_no_trace :
    let application : Application := { service := { tenants := {} } }
    let request : Request := { method := "POST", path := "/api/reports/tables" }
    let secret : List (String × String) :=
      [("Authorization", "Bearer s"), ("cookie", "s"), ("Accept", "text/csv"), ("COOKIE", "t"),
       ("X-API-Key", "s")]
    let bare : List (String × String) := [("Accept", "text/csv")]
    let answered := application.respond { request with headers := Headers.received secret } {}
    answered = application.respond { request with headers := Headers.received bare } {} ∧
      answered.1.status = 400 ∧
      answered.2.requests.entries.map (·.headers) = ["\x7b\"accept\": \"text/csv\"\x7d"] := by
  intro application request secret bare answered
  have hsame : answered = application.respond { request with headers := Headers.received bare } {} :=
    credentials_leave_no_trace application {} request secret bare (by decide +kernel)
  rw [hsame]
  exact ⟨rfl, by decide +kernel, by decide +kernel⟩

end TenantReporting.Web
