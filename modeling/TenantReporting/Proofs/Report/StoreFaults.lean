import TenantReporting.Proofs.Report.Attempts
import TenantReporting.Proofs.Tenancy.StoreFaults

/-!
# Faults of stores in calls of the service

A call for a report, or for the tables of a tenant, asks the tenant's store one question. If the
store raises a fault, the call ends with what the fault surfaces as; and a call for a report leaves
an entry about it in the log, unless the fault escapes (`Call.fault_surfaces`).
-/

namespace TenantReporting.Report

open Tenancy (Escapes Question Raises Registry Stage Surfaces)

/-- What the execution of an order asks the store of its tenant. -/
def Order.question (order : Order) : Question :=
  .statement order.compiled.text order.compiled.parameters

/-- The tenant whose store a call asks, and what it asks, if it is not refused before. -/
def Call.question? (service : Service) : Call → Option (String × Question)
  | listTables tenant => some (tenant, .tables "")
  | call => (call.order? service).map fun order ↦ (order.tenant, order.question)

/-- What becomes of the log when a call for a report fails for a fault: a service that keeps a
writable log records the failure, but if the fault escapes, nothing is recorded. -/
structure RecordsFault (service : Service) (tenant : String) (stage : Stage) (fault : StoreFault)
    (failure : Failure) (log later : ExecutionLog) : Prop where
  recorded : ¬ Escapes stage fault → service.keepsLog = true → log.writable = true →
    ∃ entry, later.entries = log.entries ++ [entry] ∧ entry.tenant = tenant ∧
      entry.Tells (.error failure)
  lost : Escapes stage fault → later = log

section Faults

variable {service : Service} {state : ServiceState} {order : Order} {stage : Stage}
  {fault : StoreFault} {failure : Failure}

/-- An execution that fails for a fault is an attempt unless the fault escapes. -/
theorem attempt_of_surfaces (state : ServiceState) (h : Surfaces stage fault failure)
    (hfailed : (order.query service state.registry).1 = .error failure) :
    (¬ Escapes stage fault → (order.executed service state).isAttempt = true) ∧
      (Escapes stage fault → (order.executed service state).isAttempt = false) := by
  rw [executed_eq, hfailed]
  constructor
  · intro hstays
    obtain ⟨error, rfl, htells⟩ := h.reported hstays
    cases stage with
    | connecting => simp [Execution.isAttempt, show error.kind = .connectionUnavailable from htells]
    | answering =>
        obtain rfl : error = .execution fault.message := htells
        rfl
  · intro hescapes
    rw [h.escaped hescapes]
    rfl

/-- The log takes an entry about an execution that fails for a fault unless the fault escapes. -/
theorem execute_records_fault (h : Surfaces stage fault failure)
    (hfailed : (order.query service state.registry).1 = .error failure) :
    RecordsFault service order.tenant stage fault failure state.log
      (order.execute service state).2.log := by
  obtain ⟨hattempt, hnone⟩ := attempt_of_surfaces state h hfailed
  have hlog := order_execute_log service state order
  constructor
  · intro hstays hkeeps hwritable
    rw [Service.logs, hkeeps, hwritable, hattempt hstays, Bool.true_and, Bool.true_and,
      if_pos rfl] at hlog
    have hrecorded := entry_records (order.executed service state) (state.log.entries.length + 1)
    have houtcome : (order.executed service state).outcome = .error failure := by
      rw [executed_eq, hfailed]
    have htells := hrecorded.outcome
    rw [houtcome] at htells
    exact ⟨_, by rw [hlog], hrecorded.tenant, htells⟩
  · intro hescapes
    rw [hlog, Service.logs, hnone hescapes, Bool.and_false, Bool.and_false,
      if_neg Bool.false_ne_true]

/-- A call whose order fails at the store fails as the order does. -/
theorem Call.failure_of_order {call : Call} (horder : call.order? service = some order)
    (hfailed : (order.query service state.registry).1 = .error failure) :
    (call.perform service state).1.failure? = some failure := by
  have hexecute : (order.execute service state).1 = .error failure := by
    rw [order_execute_eq, hfailed]
  rw [perform_of_order state horder, hexecute]
  cases call with
  | generateReport tenant source format => rfl
  | buildReport tenant source => rfl
  | _ => cases horder

/-- A call for a report that asks a store something does so by its order. -/
theorem Call.order_of_question {call : Call} {tenant : String} {question : Question}
    (hreport : call.isReport = true) (h : call.question? service = some (tenant, question)) :
    ∃ order, call.order? service = some order ∧ order.tenant = tenant ∧
      order.question = question := by
  have hmap : (call.order? service).map (fun order ↦ (order.tenant, order.question)) =
      some (tenant, question) := by
    cases call with
    | buildReport | generateReport =>
        dsimp only [question?] at h
        exact h
    | _ => cases hreport
  obtain ⟨order, horder, heq⟩ := Option.map_eq_some_iff.1 hmap
  exact ⟨order, horder, Prod.mk.inj heq⟩

/-- A call whose store raises a fault ends with what the fault surfaces as, and a call for a report
records it. -/
theorem Call.fault_surfaces {call : Call} {tenant : String} {question : Question}
    (hquestion : call.question? service = some (tenant, question))
    (hraises : Raises service.tenants tenant question state.registry stage fault)
    (hknown : fault.IsKnown) :
    ∃ failure, Surfaces stage fault failure ∧
      (call.perform service state).1.failure? = some failure ∧
      (call.isReport = true → RecordsFault service tenant stage fault failure state.log
        (call.perform service state).2.log) := by
  by_cases hreport : call.isReport = true
  · obtain ⟨order, horder, rfl, rfl⟩ := order_of_question hreport hquestion
    obtain ⟨failure, hfailed, hsurfaces⟩ := hraises.surfaces
      (Registry.execute_asks service.tenants order.compiled.text order.compiled.parameters) hknown
    refine ⟨failure, hsurfaces, failure_of_order horder hfailed, fun _ ↦ ?_⟩
    rw [perform_of_order state horder]
    dsimp only
    exact execute_records_fault hsurfaces hfailed
  · cases call with
    | listTables asked =>
        obtain ⟨rfl, rfl⟩ := Prod.mk.inj (Option.some.inj hquestion)
        obtain ⟨failure, hfailed, hsurfaces⟩ :=
          hraises.surfaces (Registry.describe_asks service.tenants "") hknown
        refine ⟨failure, hsurfaces, ?_, fun hcalls ↦ absurd hcalls hreport⟩
        have hinspect : (service.inspect asked state.registry).1 = .error failure := hfailed
        dsimp only [perform]
        rw [list_tables_eq, hinspect]
        rfl
    | buildReport | generateReport => exact absurd rfl hreport
    | _ => cases hquestion

end Faults

end TenantReporting.Report
