import TenantReporting.Proofs.Outcome
import TenantReporting.Proofs.Tenancy.Runs
import TenantReporting.Report.Service

/-!
# Calls of the service

A call of the service gives an answer and leaves a state. A call for a report is checked first; one
that passes is an order, which is executed and rendered (`build_report_eq`, `generate_report_eq`).
What a service does is told by the answers to calls that are made one after another, between which
time may pass and the log may become unwritable or writable again.
-/

namespace TenantReporting.Report

open Tenancy (Registry TableDescription)

/-- A report that has passed every check, so that it can be executed. -/
structure Order where
  tenant : String
  config : ReportConfig
  compiled : Query.Compiled
  format : Format

namespace Service

/-- The order of a report in a format, if its configuration is not refused. -/
def order (service : Service) (tenant : String) (source : ConfigSource) (format : Format) :
    Except Failure Order :=
  match source.read with
  | .error failure => .error failure
  | .ok config =>
    match Query.compile service.rules config with
    | .error failure => .error failure
    | .ok compiled => .ok ⟨tenant, config, compiled, format⟩

/-- The order of a report in the format that a value names. -/
def orderIn (service : Service) (tenant : String) (source : ConfigSource) (format : Json) :
    Except Failure Order :=
  match checkFormat service.renderers format with
  | .error failure => .error failure
  | .ok format => service.order tenant source format

end Service

/-- A configuration that compiles is ordered in any format. -/
theorem Service.order_eq_ok {service : Service} {config : ReportConfig} {compiled : Query.Compiled}
    (h : Query.compile service.rules config = .ok compiled) (tenant : String) (format : Format) :
    service.order tenant (.ready config) format = .ok ⟨tenant, config, compiled, format⟩ := by
  simp only [Service.order, ConfigSource.read, h]

/-- A configuration that compiles is ordered in a format that is accepted. -/
theorem Service.order_in_eq_ok {service : Service} {config : ReportConfig}
    {compiled : Query.Compiled} {given : Json} {format : Format}
    (hformat : checkFormat service.renderers given = .ok format)
    (h : Query.compile service.rules config = .ok compiled) (tenant : String) :
    service.orderIn tenant (.ready config) given = .ok ⟨tenant, config, compiled, format⟩ := by
  rw [Service.orderIn, hformat]
  exact order_eq_ok h tenant format

/-- Executes an order. -/
def Order.execute (service : Service) (order : Order) : Service.Operation (List Json) :=
  service.execute order.tenant order.compiled order.format order.config.tables.length

/-- Executes the query of an order on the database of its tenant, and nothing else. -/
def Order.query (service : Service) (order : Order) : Registry.Operation (List Json) :=
  Registry.withConnection service.tenants order.tenant fun connection ↦
    Registry.execute service.tenants connection order.compiled.text order.compiled.parameters

/-- Reads the tables of a tenant's database from a connection, and does nothing else. -/
def Service.inspect (service : Service) (tenant : String) :
    Registry.Operation (List TableDescription) :=
  Registry.withConnection service.tenants tenant fun connection ↦
    Registry.describeTables service.tenants connection ""

section Equations

variable (service : Service) (tenant : String) (source : ConfigSource) (state : ServiceState)

/-- A report is built by executing its order. -/
theorem build_report_eq :
    service.buildReport tenant source state =
      match service.order tenant source .json with
      | .error failure => (.error failure, state)
      | .ok order => order.execute service state := by
  unfold Service.buildReport Service.order
  cases source.read with
  | error failure => rfl
  | ok config =>
      dsimp only
      cases Query.compile service.rules config <;> rfl

/-- A report is generated by executing its order and rendering the rows in the format of the
order. -/
theorem generate_report_eq (format : Json) :
    service.generateReport tenant source format state =
      match service.orderIn tenant source format with
      | .error failure => (.error failure, state)
      | .ok order =>
        ((order.execute service state).1 >>= fun rows ↦
            renderAs service.renderers order.format (.list rows),
          (order.execute service state).2) := by
  unfold Service.generateReport Service.orderIn Service.order
  cases checkFormat service.renderers format with
  | error failure => rfl
  | ok format =>
      dsimp only
      cases source.read with
      | error failure => rfl
      | ok config =>
          dsimp only
          cases Query.compile service.rules config with
          | error failure => rfl
          | ok compiled =>
              dsimp only [Order.execute]
              rcases service.execute tenant compiled format config.tables.length state with
                ⟨failure | rows, later⟩
              · rfl
              · rfl

/-- Tables are listed by reading them from the database and checking them. -/
theorem list_tables_eq :
    service.listTables tenant state =
      ((service.inspect tenant state.registry).1 >>= fun tables ↦
          tables.mapM Service.checkTable,
        { state with registry := (service.inspect tenant state.registry).2 }) := by
  unfold Service.listTables Service.inspect
  dsimp only
  split
  next hresult =>
    rw [hresult]
    rfl
  next hresult =>
    rw [hresult]
    rfl

/-- What is executed and noted for an order. -/
theorem order_execute_eq (order : Order) :
    order.execute service state =
      ((order.query service state.registry).1,
        let finished := { state with registry := (order.query service state.registry).2 }
        if Service.isRecorded (order.query service state.registry).1 then
          service.note (Service.attemptOf order.tenant order.format order.config.tables.length
            (Service.now state) (Service.now finished) (order.query service state.registry).1)
            finished
        else finished) := by
  unfold Order.execute Service.execute
  dsimp only
  rw [Order.query]
  split
  · rfl
  · rfl

end Equations

/-- A query fails as acquiring its connection does. -/
theorem query_of_acquire {service : Service} {order : Order} {registry later : Registry}
    {failure : Failure}
    (h : Registry.acquire service.tenants order.tenant registry = (.error failure, later)) :
    order.query service registry = (.error failure, later) :=
  Registry.with_connection_of_refused h

/-! ### Calls -/

/-- A call of the service, or something that happens between calls. -/
inductive Call where
  | preview (source : ConfigSource)
  | buildReport (tenant : String) (source : ConfigSource)
  | generateReport (tenant : String) (source : ConfigSource) (format : Json)
  | listTables (tenant : String)
  | history (tenant : String) (failuresOnly : Bool) (limit : Int)
  | setWritable (writable : Bool)
  | wait (ticks : Int)

/-- What is answered to a call. -/
inductive Answer where
  | query (outcome : Except Failure Query.Compiled)
  | rows (outcome : Except Failure (List Json))
  | report (outcome : Except Failure Rendered)
  | tables (outcome : Except Failure (List TableDescription))
  | entries (entries : List LogEntry)
  | nothing

/-- The failure of an outcome. -/
def failureOf? {α : Type} : Except Failure α → Option Failure
  | .error failure => some failure
  | .ok _ => none

theorem failure_of_eq_some_iff {α : Type} {outcome : Except Failure α} {failure : Failure} :
    failureOf? outcome = some failure ↔ outcome = .error failure := by
  cases outcome <;> simp [failureOf?]

/-- The failure with which a call ends. -/
def Answer.failure? : Answer → Option Failure
  | query outcome => failureOf? outcome
  | rows outcome => failureOf? outcome
  | report outcome => failureOf? outcome
  | tables outcome => failureOf? outcome
  | entries _ => none
  | nothing => none

namespace Call

/-- The answer to a call and the state after it. -/
def perform (service : Service) (call : Call) (state : ServiceState) : Answer × ServiceState :=
  match call with
  | preview source => (.query (service.preview source), state)
  | buildReport tenant source =>
    let done := service.buildReport tenant source state
    (.rows done.1, done.2)
  | generateReport tenant source format =>
    let done := service.generateReport tenant source format state
    (.report done.1, done.2)
  | listTables tenant =>
    let done := service.listTables tenant state
    (.tables done.1, done.2)
  | history tenant failuresOnly limit =>
    (.entries (service.history tenant failuresOnly limit state), state)
  | setWritable writable => (.nothing, { state with log := { state.log with writable } })
  | wait ticks => (.nothing, { state with registry := state.registry.tick ticks })

/-- What a call has executed, if it is a call for a report that is not refused. -/
def order? (service : Service) : Call → Option Order
  | buildReport tenant source => (service.order tenant source .json).toOption
  | generateReport tenant source format => (service.orderIn tenant source format).toOption
  | _ => none

variable {service : Service} (state : ServiceState) {call : Call}

/-- The answer to a call for a report whose order has been executed with an outcome. -/
def answerTo (service : Service) (order : Order) (outcome : Except Failure (List Json)) :
    Call → Answer
  | generateReport _ _ _ =>
    .report (outcome >>= fun rows ↦ renderAs service.renderers order.format (.list rows))
  | _ => .rows outcome

/-- The call is one for a report. -/
def isReport : Call → Bool
  | buildReport _ _ => true
  | generateReport _ _ _ => true
  | _ => false

/-- A call that has an order executes it: it is answered from the outcome of the execution, and
leaves the state that the execution leaves. -/
theorem perform_of_order {order : Order} (h : call.order? service = some order) :
    call.perform service state =
      (call.answerTo service order (order.execute service state).1,
        (order.execute service state).2) := by
  cases call with
  | buildReport tenant source =>
      have horder : service.order tenant source .json = .ok order :=
        Outcome.to_option_eq_some_iff.1 h
      dsimp only [perform, answerTo]
      rw [build_report_eq, horder]
  | generateReport tenant source format =>
      have horder : service.orderIn tenant source format = .ok order :=
        Outcome.to_option_eq_some_iff.1 h
      dsimp only [perform, answerTo]
      rw [generate_report_eq, horder]
  | _ => cases h

/-- A call for a report that has no order is answered without a look at the state, and leaves it as
it is. -/
theorem perform_of_refused (hreport : call.isReport = true) (h : call.order? service = none) :
    ∃ answer, ∀ state, call.perform service state = (answer, state) := by
  cases call with
  | buildReport tenant source =>
      cases horder : service.order tenant source .json with
      | error failure =>
          refine ⟨.rows (.error failure), fun state ↦ ?_⟩
          dsimp only [perform]
          rw [build_report_eq, horder]
      | ok order =>
          rw [order?, horder] at h
          cases h
  | generateReport tenant source format =>
      cases horder : service.orderIn tenant source format with
      | error failure =>
          refine ⟨.report (.error failure), fun state ↦ ?_⟩
          dsimp only [perform]
          rw [generate_report_eq, horder]
      | ok order =>
          rw [order?, horder] at h
          cases h
  | _ => cases hreport

/-- A call that has executed no order adds nothing to the log. -/
theorem perform_of_no_order (h : call.order? service = none) :
    (call.perform service state).2.log.entries = state.log.entries := by
  cases call with
  | buildReport | generateReport =>
      obtain ⟨answer, hrefused⟩ := perform_of_refused rfl h
      rw [hrefused]
  | listTables tenant =>
      dsimp only [perform]
      rw [list_tables_eq]
  | _ => rfl

end Call

/-- The state after some calls in a row. -/
def performAll (service : Service) (calls : List Call) (state : ServiceState) : ServiceState :=
  calls.foldl (fun state call ↦ (call.perform service state).2) state

theorem perform_all_nil (service : Service) (state : ServiceState) :
    performAll service [] state = state := rfl

theorem perform_all_cons (service : Service) (call : Call) (calls : List Call)
    (state : ServiceState) :
    performAll service (call :: calls) state =
      performAll service calls (call.perform service state).2 := rfl

end TenantReporting.Report
