import TenantReporting.Proofs.Report.StoreFaults
import TenantReporting.Proofs.Web.ServiceAgreement

/-!
# What clients are told of the faults of stores

A request for a report or for tables comes to one call of the service (`Request.call?`). If the call
fails, the client is told of the failure (`answers_failed_call`). So the fault of a store is
answered as one of the database, be it unavailable or unable to answer, and only the fault that
escapes is answered as something that nobody expected (`store_faults_surface`).
-/

namespace TenantReporting.Web

open Report (RecordsFault)
open Tenancy (Escapes Raises Stage Surfaces)

/-- The call of the service that a request comes to when it has been read. -/
def Request.call? (request : Request) : Option Report.Call :=
  if request.isAddressed = true ∧ request.method = "POST" then
    match Resource.at? request.path with
    | some .rows =>
      (Resource.tenantAndReport ReportRequest.rowsReader request).toOption.map
        fun (tenant, report) ↦ .buildReport tenant (.ready report.config)
    | some .rendered =>
      (Resource.tenantAndReport ReportRequest.renderedReader request).toOption.map
        fun (tenant, report) ↦
          .generateReport tenant (.ready report.config) (.text report.format.name)
    | some .tables => (Resource.tenantOf request).toOption.map .listTables
    | _ => none
  else none

namespace Application

variable {application : Application} {request : Request} {state : ApplicationState}
  {call : Report.Call} {failure : Failure}

/-- An operation of the service that fails leaves a problem. -/
theorem of_service_failed {α : Type} {result : Except Failure α × Report.ServiceState}
    (h : Report.failureOf? result.1 = some failure) (respond : α → Response) :
    Resource.ofService state result respond =
      (.error (.ofFailure failure), state.withService result.2) := by
  rcases result with ⟨outcome, later⟩
  obtain rfl : outcome = .error failure := Report.failure_of_eq_some_iff.1 h
  rfl

/-- An operation of the service leaves the service as it says. -/
theorem of_service_service {α : Type} (result : Except Failure α × Report.ServiceState)
    (respond : α → Response) : (Resource.ofService state result respond).2.service = result.2 := by
  rcases result with ⟨failure | value, later⟩ <;> rfl

/-- A request that cannot be read is not served. -/
theorem continue_of_unread {α : Type} {asked : Except Problem α} (h : asked.toOption = none)
    (serve : α → Resource.Served) :
    (Resource.continueWith asked state serve).2.service = state.service := by
  cases asked with
  | error problem => rfl
  | ok asked => cases h

/-- A request that comes to a call which fails comes to the problem behind the failure. -/
theorem route_of_failed_call (hcall : request.call? = some call)
    (hfailed : (call.perform application.service state.service).1.failure? = some failure) :
    request.isAddressed = true ∧ request.method = "POST" ∧ application.route request state =
      (.error (.ofFailure failure),
        state.withService (call.perform application.service state.service).2) := by
  unfold Request.call? at hcall
  split at hcall
  next harrives =>
    obtain ⟨haddressed, hmethod⟩ := harrives
    refine ⟨haddressed, hmethod, ?_⟩
    -- The call is opened first: matching it with what the resource does would unfold the service.
    split at hcall
    next hat =>
      obtain ⟨⟨tenant, report⟩, hasked, rfl⟩ := Option.map_eq_some_iff.1 hcall
      rw [route_of_posted hmethod rfl hat (by decide +kernel), Resource.serve,
        Outcome.to_option_eq_some_iff.1 hasked]
      dsimp only [Report.Call.perform, Report.Answer.failure?, Resource.continueWith] at hfailed ⊢
      exact of_service_failed hfailed _
    next hat =>
      obtain ⟨⟨tenant, report⟩, hasked, rfl⟩ := Option.map_eq_some_iff.1 hcall
      rw [route_of_posted hmethod rfl hat (by decide +kernel), Resource.serve,
        Outcome.to_option_eq_some_iff.1 hasked]
      dsimp only [Report.Call.perform, Report.Answer.failure?, Resource.continueWith] at hfailed ⊢
      exact of_service_failed hfailed _
    next hat =>
      obtain ⟨tenant, hasked, rfl⟩ := Option.map_eq_some_iff.1 hcall
      rw [route_of_posted hmethod rfl hat (by decide +kernel), Resource.serve,
        Outcome.to_option_eq_some_iff.1 hasked]
      dsimp only [Report.Call.perform, Report.Answer.failure?, Resource.continueWith] at hfailed ⊢
      exact of_service_failed hfailed _
    next => cases hcall
  next => cases hcall

/-- A request that comes to a call which fails for something else than the request itself is
answered with the message about the failure, and it leaves the service as the call does. -/
theorem answers_failed_call (hcall : request.call? = some call)
    (hunquoted : (Problem.ofFailure failure).quotesRequest = false)
    (hfailed : (call.perform application.service state.service).1.failure? = some failure) :
    Answers (.ofOutcome (.error failure)) (call.perform application.service state.service).2
      (application.respond request state) := by
  obtain ⟨haddressed, hmethod, hroute⟩ := route_of_failed_call hcall hfailed
  obtain ⟨share, hshare, hrespond⟩ := application.respond_of_posted state hmethod
  obtain ⟨response, hresponse, hbrings⟩ := Problem.response_of_failure failure
  rw [hrespond]
  exact answer_of_problem (hshare _) hbrings haddressed (Problem.stand_ins_of_unquoted hunquoted)
    hroute hresponse

/-- A request that comes to no call has nothing done that changes the service. -/
theorem route_of_no_call (haddressed : request.isAddressed = true) (hcall : request.call? = none) :
    (application.route request state).2.service = state.service := by
  unfold route
  split
  next resource hat =>
    split
    next hknown =>
      have hposted (h : resource.methods = ["POST"]) : request.method = "POST" := by
        rw [h] at hknown
        simpa using hknown
      unfold Request.call? at hcall
      rw [hat] at hcall
      cases resource with
      | rows =>
          rw [if_pos ⟨haddressed, hposted rfl⟩, Option.map_eq_none_iff] at hcall
          exact continue_of_unread hcall _
      | rendered =>
          rw [if_pos ⟨haddressed, hposted rfl⟩, Option.map_eq_none_iff] at hcall
          exact continue_of_unread hcall _
      | tables =>
          rw [if_pos ⟨haddressed, hposted rfl⟩, Option.map_eq_none_iff] at hcall
          exact continue_of_unread hcall _
      | query =>
          simp only [Resource.serve, Resource.continueWith]
          split
          · exact of_service_service _ _
          · rfl
      | executions | pools =>
          simp only [Resource.serve, Resource.continueWith]
          split <;> rfl
      | page path => rfl
    next => rfl
  next =>
    split <;> rfl

/-- Only the route of a request changes the service. -/
theorem answer_service (haddressed : request.isAddressed = true) (share : Response → Response) :
    (application.answer share request state).2.service =
      (application.route request state).2.service := by
  have hhandler : (application.handler (exchangeOf request) state).2.service =
      (application.route request state).2.service := by
    rw [handler, exchange_of_request]
    split
    next hroute => rw [hroute]
    next hroute => rw [hroute]
    next hroute => rw [hroute, settle_service]
  have hobserved :
      (observed application.identity application.handler request state).2.service =
        (application.handler (exchangeOf request) state).2.service := by
    unfold observed
    rw [fault_of_addressed haddressed]
    dsimp only
    split
    next hresult => rw [hresult]
    next hresult =>
      rw [hresult]
      split <;> rfl
  rw [← hhandler, ← hobserved]
  unfold answer
  split
  next hresult => rw [hresult]
  next hresult =>
    rw [hresult, abandon_of_addressed haddressed]
    dsimp only
    exact settle_service _ _ _ _

/-- A request that comes to no call leaves the service as it is, so no store is asked. -/
theorem respond_of_no_call (hcall : request.call? = none) :
    (application.respond request state).2.service = state.service := by
  have hanswer (share : Response → Response) :
      (application.answer share request state).2.service = state.service := by
    cases haddressed : request.isAddressed with
    | false => rw [answer_of_unaddressed application state share haddressed]
    | true => rw [answer_service haddressed, route_of_no_call haddressed hcall]
  unfold respond
  split
  · exact hanswer id
  · split
    · rfl
    · exact hanswer _

end Application

/-- The status under which a client is told of a fault that does not escape. -/
def faultStatus : Stage → Nat
  | .connecting => 503
  | .answering => 422

/-- What is told of the fault of a store has not been taken from a request. -/
theorem surfaces_unquoted {stage : Stage} {fault : StoreFault} {failure : Failure}
    (h : Surfaces stage fault failure) : (Problem.ofFailure failure).quotesRequest = false := by
  by_cases hescapes : Escapes stage fault
  · rw [h.escaped hescapes]
    rfl
  · obtain ⟨error, rfl, htells⟩ := h.reported hescapes
    cases stage with
    | connecting =>
        have hkind : error.kind = .connectionUnavailable := htells
        rw [Problem.ofFailure, Problem.quotesRequest, hkind]
        rfl
    | answering =>
        obtain rfl : error = .execution fault.message := htells
        rfl

/-- The message about what a fault surfaces as has the status of its stage, and if it escapes, that
of a failure which nobody expected. -/
theorem status_of_surfaces {stage : Stage} {fault : StoreFault} {failure : Failure}
    (h : Surfaces stage fault failure) :
    (¬ Escapes stage fault → (Message.ofOutcome (.error failure)).status = faultStatus stage) ∧
      (Escapes stage fault → (Message.ofOutcome (.error failure)).status = 500) := by
  constructor
  · intro hstays
    obtain ⟨error, rfl, htells⟩ := h.reported hstays
    cases stage with
    | connecting =>
        have hkind : error.kind = .connectionUnavailable := htells
        simp only [Message.ofOutcome, hkind]
        rfl
    | answering =>
        obtain rfl : error = .execution fault.message := htells
        rfl
  · intro hescapes
    rw [h.escaped hescapes]
    rfl

/-- Every fault of a known kind that a store raises once there is an engine surfaces as an error of
reporting: in the calls of the registry, in those of the service, whose log records it if it keeps
one that can be written, and under the status of such an error in the answers to requests; requests
that come to no such call ask no store. Only a fault of the layer above the driver that is raised
while a connection is opened is reported by nobody: it leaves the registry as it is, makes no entry
in the log, and the client is told of a failure that nobody expected. -/
theorem store_faults_surface (application : Application) (state : ApplicationState)
    {fault : StoreFault} (hknown : fault.IsKnown) :
    state.service.registry.SurfacesFault application.service.tenants fault ∧
      (∀ call tenant question stage,
        Report.Call.question? application.service call = some (tenant, question) →
          Raises application.service.tenants tenant question state.service.registry stage fault →
            let done := call.perform application.service state.service
            ∃ failure, Surfaces stage fault failure ∧ done.1.failure? = some failure ∧
              (call.isReport = true → RecordsFault application.service tenant stage fault failure
                state.service.log done.2.log) ∧
              ∀ request : Request, request.call? = some call →
                let answered := application.respond request state
                answered.2.service = done.2 ∧
                  (¬ Escapes stage fault → answered.1.status = faultStatus stage) ∧
                  (Escapes stage fault → answered.1.status = 500)) ∧
      ∀ request : Request, request.call? = none →
        (application.respond request state).2.service = state.service := by
  refine ⟨state.service.registry.surfaces_fault _ hknown, ?_,
    fun request hcall ↦ Application.respond_of_no_call hcall⟩
  intro call tenant question stage hquestion hraises done
  obtain ⟨failure, hsurfaces, hfailed, hrecords⟩ :=
    Report.Call.fault_surfaces hquestion hraises hknown
  refine ⟨failure, hsurfaces, hfailed, hrecords, ?_⟩
  intro request hcall answered
  obtain ⟨hbrings, hservice⟩ :=
    Application.answers_failed_call hcall (surfaces_unquoted hsurfaces) hfailed
  obtain ⟨hstatus, hunexpected⟩ := status_of_surfaces hsurfaces
  exact ⟨hservice, fun hstays ↦ hbrings.status.trans (hstatus hstays),
    fun hescapes ↦ hbrings.status.trans (hunexpected hescapes)⟩

/-! ### A store whose layer fails -/

/-- The fault of a layer above the driver. -/
def layerFault : StoreFault :=
  ⟨.layer, "gone"⟩

/-- An application with a tenant whose store cannot be connected to, and another one whose store
answers nothing, both for the fault of the layer. -/
def faultyApplication : Application :=
  { service :=
      { tenants :=
          { stores := fun name ↦
              if name = "south" then { connect := fun _ ↦ some layerFault }
              else
                { statement := fun _ ↦ { outcome := .error layerFault }
                  inspection := fun _ _ ↦ .error layerFault } } } }

/-- A request for the tables of a tenant. -/
def tablesRequest (tenant : String) : Request :=
  { method := "POST"
    path := "/api/reports/tables"
    headers := [("x-agency-database", tenant)] }

theorem tables_request_call {tenant : String} (h : tenant ≠ "") :
    (tablesRequest tenant).call? = some (.listTables tenant) := by
  have haddressed : (tablesRequest tenant).isAddressed = true := by
    have haddress : (tablesRequest tenant).address =
      Address.ofText (Request.ownHost ++ "/api/reports/tables") := rfl
    have hquery : (tablesRequest tenant).query = [] := rfl
    rw [Request.isAddressed, Request.addressFault?, haddress, hquery]
    decide +kernel
  have harrives : (tablesRequest tenant).isAddressed = true ∧
      (tablesRequest tenant).method = "POST" := ⟨haddressed, rfl⟩
  have hat : Resource.at? (tablesRequest tenant).path = some .tables := by
    show Resource.at? "/api/reports/tables" = some .tables
    decide +kernel
  have htenant : Resource.tenantOf (tablesRequest tenant) = .ok tenant := tenant_of_named rfl h
  rw [Request.call?, if_pos harrives]
  simp only [hat, htenant]
  rfl

/-- A report that is not answered is recorded, and tables that are not listed are told of; but if
the layer fails while a connection is opened, the client is told of an unexpected failure. -/
theorem layer_fault_surfaces :
    (∃ (report : Report.Call) (entry : Report.LogEntry),
      (report.perform faultyApplication.service {}).2.log.entries = [entry] ∧
        entry.tenant = "north" ∧ entry.success = false) ∧
      (faultyApplication.respond (tablesRequest "north") {}).1.status = 422 ∧
      (faultyApplication.respond (tablesRequest "south") {}).1.status = 500 := by
  have hknown : layerFault.IsKnown := by simp [StoreFault.IsKnown, layerFault]
  obtain ⟨-, hcalls, -⟩ := store_faults_surface faultyApplication {} hknown
  have hanswers : ¬ Escapes .answering layerFault := fun hescapes ↦ by cases hescapes.1
  let tenants := faultyApplication.service.tenants
  let opened : Tenancy.Registry := (Tenancy.Registry.acquire tenants "north" {}).2
  have hacquire : Tenancy.Registry.acquire tenants "north" {} =
      (.ok ⟨1, ⟨1, "north"⟩⟩, opened) := rfl
  refine ⟨?_, ?_, ?_⟩
  · obtain ⟨compiled, hcompiled⟩ := filtered_report_compiles
    let order : Report.Order := ⟨"north", filteredReport, compiled, .json⟩
    have horder : (Report.Call.buildReport "north" (.ready filteredReport)).order?
        faultyApplication.service = some order := by
      rw [Report.Call.order?, Report.Service.order_eq_ok hcompiled]
      rfl
    have hquestion : (Report.Call.buildReport "north" (.ready filteredReport)).question?
        faultyApplication.service = some ("north", order.question) :=
      Option.map_eq_some_iff.2 ⟨order, horder, rfl⟩
    have hraises : Raises tenants "north" order.question {} .answering layerFault :=
      .answering hacquire rfl
    obtain ⟨failure, -, -, hrecords, -⟩ := hcalls _ _ _ _ hquestion hraises
    obtain ⟨entry, hentries, htenant, htells⟩ := (hrecords rfl).recorded hanswers rfl rfl
    exact ⟨_, entry, hentries, htenant, htells.1⟩
  · have hraises : Raises tenants "north" (.tables "") {} .answering layerFault :=
      .answering hacquire rfl
    obtain ⟨failure, -, -, -, hrequests⟩ := hcalls (.listTables "north") _ _ _ rfl hraises
    obtain ⟨-, hstatus, -⟩ := hrequests _ (tables_request_call (by decide))
    exact hstatus hanswers
  · have hfails : Tenancy.Registry.FailsToConnect tenants "south" layerFault {} :=
      ⟨⟨1, "south"⟩, (Tenancy.Registry.engine tenants "south" {}).2, rfl, rfl⟩
    obtain ⟨failure, -, -, -, hrequests⟩ :=
      hcalls (.listTables "south") "south" (.tables "") _ rfl (.connecting hfails)
    obtain ⟨-, -, hunexpected⟩ := hrequests _ (tables_request_call (by decide))
    exact hunexpected ⟨rfl, rfl⟩

/-- The engine of a tenant is there, and the layer fails while a connection is opened. The fault
leaves the registry as it is, a report that fails for it leaves no entry in the log, and the client
is told of an unexpected failure. -/
theorem layer_fault_escapes :
    let service := faultyApplication.service
    let built := service.buildReport "south" (.ready filteredReport) {}
    (Tenancy.Registry.engine service.tenants "south" {}).1.isOk = true ∧
      (Tenancy.Registry.acquire service.tenants "south" {}).1 = .error (.store layerFault) ∧
      built.1 = .error (.store layerFault) ∧ built.2.log.entries = [] ∧
      (faultyApplication.respond (tablesRequest "south") {}).1.status = 500 := by
  intro service built
  obtain ⟨compiled, hcompiled⟩ := filtered_report_compiles
  let order : Report.Order := ⟨"south", filteredReport, compiled, .json⟩
  let later : Tenancy.Registry := (Tenancy.Registry.acquire service.tenants "south" {}).2
  have hacquire : Tenancy.Registry.acquire service.tenants "south" {} =
      (.error (.store layerFault), later) := rfl
  have hquery : order.query service {} = (.error (.store layerFault), later) :=
    Report.query_of_acquire hacquire
  have hbuilt : built = (.error (.store layerFault), ⟨later, {}⟩) := by
    have hexecuted := Report.order_execute_eq service {} order
    rw [hquery] at hexecuted
    show service.buildReport "south" (.ready filteredReport) {} = _
    rw [Report.build_report_eq, Report.Service.order_eq_ok hcompiled]
    exact hexecuted
  refine ⟨rfl, by rw [hacquire], by rw [hbuilt], by rw [hbuilt], ?_⟩
  decide +kernel

end TenantReporting.Web
