import TenantReporting.Proofs.Text.StandIn
import TenantReporting.Web.Application

/-!
# From requests to answers

A request that is no preflight is observed and handled, and its answer may be shared with other
origins, which changes the headers only (`respond_of_arriving`). Without an address it does not get
that far (`answer_of_unaddressed`). What a resource answers passes through; a problem is settled by
those who handle the request, and the unexpected one is left to the end of the exchange. Settling a
problem sends its answer, unless the request holds a surrogate that the answer would have to show
(`sent_cases`).
-/

namespace TenantReporting.Web

/-- The request asks for another origin what pages of it may do, and is answered before it reaches
the application. -/
def Request.isPreflight (request : Request) : Bool :=
  (request.headers.value? "origin").isSome && (CrossOrigin.preflightMethod? request).isSome

/-- A tenant who is named is the tenant of the request. -/
theorem tenant_of_named {request : Request} {tenant : String} (h : request.tenant? = some tenant)
    (hnamed : tenant ≠ "") : Resource.tenantOf request = .ok tenant := by
  rw [Resource.tenantOf, h]
  split
  · cases ‹some tenant = none›
  · cases ‹some tenant = some ""›
    exact absurd rfl hnamed
  · cases ‹some tenant = some _›
    rfl

theorem fault_of_addressed {request : Request} (h : request.isAddressed = true) :
    request.addressFault? = none :=
  Option.isNone_iff_eq_none.1 h

/-! ### Surrogates in requests -/

namespace Problem

variable {problem : Problem} {request : Request}

theorem stand_ins_of_unquoted (h : problem.quotesRequest = false) :
    problem.standIns request = [] := by
  rw [standIns, h, if_neg Bool.false_ne_true]

/-- Without stand-ins the answer is sent. -/
theorem sent_plain (logged : String) : problem.sent [] logged = problem.response := by
  rw [sent]
  cases problem.response <;> rfl

end Problem

namespace Application

variable {application : Application} {request : Request} {state : ApplicationState}

theorem exchange_of_request (request : Request) : (exchangeOf request).request = request := by
  unfold exchangeOf
  split <;> rfl

/-- What nobody expected is handled by nobody. -/
theorem handler_of_unexpected {failure : Failure} {next : ApplicationState}
    (hroute : application.route request state = (.error (.unexpected failure), next)) :
    application.handler (exchangeOf request) state = (.error failure, next) := by
  rw [handler, exchange_of_request, hroute]

/-- A problem that can be expected is settled. -/
theorem handler_of_problem {problem : Problem} {next : ApplicationState}
    (hroute : application.route request state = (.error problem, next))
    (h : ∀ failure, problem ≠ .unexpected failure) :
    application.handler (exchangeOf request) state =
      problem.settle application (exchangeOf request) next := by
  rw [handler, exchange_of_request, hroute]
  cases problem with
  | unexpected failure => exact absurd rfl (h failure)
  | _ => rfl

theorem observed_of_failure {failure : Failure} {next : ApplicationState}
    (haddressed : request.isAddressed = true)
    (h : application.handler (exchangeOf request) state = (.error failure, next)) :
    observed application.identity application.handler request state = (.error failure, next) := by
  unfold observed
  rw [fault_of_addressed haddressed]
  dsimp only
  rw [h]

/-- A request that is given up is answered with a failure after that has been settled. -/
theorem abandon_of_addressed (haddressed : request.isAddressed = true) (failure : Failure) :
    application.abandon request failure state =
      (Problem.failureResponse,
        ((Problem.unexpected failure).settle application (exchangeOf request) state).2) := by
  unfold abandon
  rw [if_pos haddressed]

/-- A request without an address is neither served nor logged, and nobody in the application answers
it. -/
theorem answer_of_unaddressed (application : Application) (state : ApplicationState)
    (share : Response → Response) (h : request.isAddressed = false) :
    application.answer share request state = (unanswered, state) := by
  obtain ⟨fault, hfault⟩ := Option.isSome_iff_exists.1 (Option.isNone_eq_false_iff.1 h)
  unfold answer observed
  rw [hfault]
  dsimp only [abandon]
  rw [h, if_neg Bool.false_ne_true]

/-- A request that reaches the application is answered by way of the observers. Sharing the answer
with other origins changes its headers only. -/
theorem respond_of_arriving (application : Application) (state : ApplicationState)
    (h : request.isPreflight = false) :
    ∃ share : Response → Response,
      (∀ response, ∃ headers, share response = { response with headers }) ∧
        application.respond request state = application.answer share request state := by
  unfold Request.isPreflight at h
  unfold respond
  cases horigin : request.headers.value? "origin" with
  | none => exact ⟨id, fun response ↦ ⟨response.headers, rfl⟩, rfl⟩
  | some origin =>
      rw [horigin, Option.isSome_some, Bool.true_and] at h
      have hplain : CrossOrigin.preflightMethod? request = none := by simpa using h
      dsimp only
      rw [hplain]
      exact ⟨CrossOrigin.share origin, fun _ ↦ ⟨_, rfl⟩, rfl⟩

end Application

end TenantReporting.Web
