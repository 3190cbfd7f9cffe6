import TenantReporting.Proofs.Report.Attempts
import TenantReporting.Proofs.Report.History

/-!
# Histories and spellings

A tenant is identified by any text that stands for its database: blanks around the name do not
count. An entry of the log has the identification as it was spelled, and a history lists the entries
of one spelling. So an attempt is found in the history of the spelling that it was made with and in
no other one, although all of them reach the same database (`histories_follow_spelling`).
-/

namespace TenantReporting.Report

open Query (databaseName)
open Tenancy (Registry)

/-- The attempted executions that a service records for a tenant spelled in this way. -/
def recordedAs (service : Service) (tenant : String) (calls : List Call) : List Execution :=
  if service.keepsLog then (attempts service calls {}).filter (·.order.tenant == tenant) else []

/-- Entries from the newest to the oldest up to a limit, possibly only those of failures. -/
def ExecutionLog.newest (failuresOnly : Bool) (limit : Int) (entries : List LogEntry) :
    List LogEntry :=
  upTo limit ((entries.filter fun entry ↦ !failuresOnly || !entry.success).mergeSort isNewer)

section Histories

variable (service : Service) (calls : List Call) (tenant : String)

/-- A history lists the entries of the executions that are recorded under the very spelling. -/
theorem history_of_recorded :
    ∃ entries, List.Forall₂ Execution.IsRecordedBy (recordedAs service tenant calls) entries ∧
      (∀ entry ∈ entries, entry.tenant = tenant) ∧
      ∀ failuresOnly limit,
        service.history tenant failuresOnly limit (performAll service calls {}) =
          ExecutionLog.newest failuresOnly limit entries := by
  unfold recordedAs Service.history
  cases hlog : service.keepsLog with
  | false => exact ⟨[], .nil, by simp, by simp [ExecutionLog.newest, ExecutionLog.upTo]⟩
  | true =>
      obtain ⟨added, hentries, hrecorded, -⟩ := perform_all_records service {} hlog calls
      rw [List.nil_append] at hentries
      refine ⟨added.filter (·.tenant == tenant), ?_, by simp, fun failuresOnly limit ↦ ?_⟩
      · rw [if_pos rfl]
        refine List.rel_filter (fun execution entry hentry ↦ ?_) hrecorded
        dsimp only
        rw [hentry.tenant]
      · rw [if_pos rfl, ExecutionLog.history, ExecutionLog.newest, hentries, List.filter_filter]
        simp only [Bool.and_comm]

/-- A history without a limit has all entries of the spelling. -/
theorem whole_history_of_recorded :
    ∃ entries, List.Forall₂ Execution.IsRecordedBy (recordedAs service tenant calls) entries ∧
      (∀ entry ∈ entries, entry.tenant = tenant) ∧
      ∀ entry, entry ∈ service.history tenant false (-1) (performAll service calls {}) ↔
        entry ∈ entries := by
  obtain ⟨entries, hrecorded, htenant, hhistory⟩ := history_of_recorded service calls tenant
  refine ⟨entries, hrecorded, htenant, fun entry ↦ ?_⟩
  rw [hhistory, ExecutionLog.newest, ExecutionLog.upTo, if_pos (by decide), List.mem_mergeSort]
  simp

variable {service calls tenant}

/-- Nothing is recorded under a spelling that shares its history with another one. -/
theorem recorded_eq_nil_of_same {other : String}
    (h : service.history tenant false (-1) (performAll service calls {}) =
      service.history other false (-1) (performAll service calls {}))
    (hdifferent : tenant ≠ other) : recordedAs service tenant calls = [] := by
  obtain ⟨entries, hrecorded, htenant, hwhole⟩ := whole_history_of_recorded service calls tenant
  obtain ⟨others, -, hother, hwholeOther⟩ := whole_history_of_recorded service calls other
  have hnone : entries = [] := by
    rw [List.eq_nil_iff_forall_not_mem]
    intro entry hentry
    -- An entry in both histories would have been made with either spelling.
    have hshared : entry ∈ others := by rwa [← hwholeOther, ← h, hwhole]
    exact hdifferent ((htenant entry hentry).symm.trans (hother entry hshared))
  rwa [hnone, List.forall₂_nil_right_iff] at hrecorded

/-- Two spellings have the same histories only if there is nothing in either. -/
theorem same_histories_iff {other : String} :
    (∀ failuresOnly limit, service.history tenant failuresOnly limit (performAll service calls {}) =
        service.history other failuresOnly limit (performAll service calls {})) ↔
      tenant = other ∨
        recordedAs service tenant calls = [] ∧ recordedAs service other calls = [] := by
  constructor
  · -- A single request tells the spellings apart: that for whole histories.
    intro hsame
    refine or_iff_not_imp_left.2 fun hdifferent ↦ ⟨?_, ?_⟩
    · exact recorded_eq_nil_of_same (hsame false (-1)) hdifferent
    · exact recorded_eq_nil_of_same (hsame false (-1)).symm (Ne.symm hdifferent)
  · rintro (rfl | ⟨hnone, hnoneOther⟩) failuresOnly limit
    · rfl
    · obtain ⟨entries, hrecorded, -, hhistory⟩ := history_of_recorded service calls tenant
      obtain ⟨others, hrecordedOther, -, hhistoryOther⟩ := history_of_recorded service calls other
      rw [hnone, List.forall₂_nil_left_iff] at hrecorded
      rw [hnoneOther, List.forall₂_nil_left_iff] at hrecordedOther
      rw [hhistory, hhistoryOther, hrecorded, hrecordedOther]

theorem exists_entry_of_recorded {executions : List Execution} {entries : List LogEntry}
    (h : List.Forall₂ Execution.IsRecordedBy executions entries) {execution : Execution}
    (hexecution : execution ∈ executions) : ∃ entry ∈ entries, execution.IsRecordedBy entry := by
  induction h with
  | nil => cases hexecution
  | cons hentry _ ih =>
      rcases List.mem_cons.1 hexecution with rfl | hrest
      · exact ⟨_, List.mem_cons_self, hentry⟩
      · obtain ⟨entry, hmem, hrecords⟩ := ih hrest
        exact ⟨entry, List.mem_cons_of_mem _ hmem, hrecords⟩

/-- An attempt that is recorded is visible under the spelling that it was made with only. -/
theorem attempt_visible_iff {execution : Execution} (h : execution ∈ attempts service calls {}) :
    (∃ entry ∈ service.history tenant false (-1) (performAll service calls {}),
        execution.IsRecordedBy entry) ↔
      service.keepsLog = true ∧ tenant = execution.order.tenant := by
  obtain ⟨entries, hrecorded, htenant, hwhole⟩ := whole_history_of_recorded service calls tenant
  simp only [hwhole]
  constructor
  · rintro ⟨entry, hentry, hrecords⟩
    refine ⟨?_, (htenant entry hentry).symm.trans hrecords.tenant⟩
    cases hlog : service.keepsLog with
    | true => rfl
    | false =>
        rw [recordedAs, hlog, if_neg Bool.false_ne_true, List.forall₂_nil_left_iff] at hrecorded
        rw [hrecorded] at hentry
        cases hentry
  · rintro ⟨hlog, hsame⟩
    refine exists_entry_of_recorded hrecorded ?_
    rw [recordedAs, if_pos hlog, List.mem_filter, beq_iff_eq]
    exact ⟨h, hsame.symm⟩

end Histories

/-- An execution without a database is refused, so it is no attempt. -/
theorem query_of_unnamed (service : Service) (registry : Registry) {order : Order}
    {defect : Query.TenantDefect} (h : databaseName order.tenant = .error defect) :
    order.query service registry = (.error (.report (.tenant defect)), registry) := by
  refine query_of_acquire ?_
  rw [Registry.acquire, h]

/-- An attempt is made on the database that its tenant stands for. -/
theorem attempt_has_database {service : Service} {calls : List Call} {state : ServiceState}
    {execution : Execution} (h : execution ∈ attempts service calls state) :
    ∃ database, databaseName execution.order.tenant = .ok database := by
  induction calls generalizing state with
  | nil => cases h
  | cons call calls ih =>
      rw [attempts, List.mem_append, Option.mem_toList] at h
      rcases h with hattempt | hlater
      · rw [Call.attempt?, Option.filter_eq_some_iff, Option.map_eq_some_iff] at hattempt
        obtain ⟨⟨order, -, rfl⟩, hattempted⟩ := hattempt
        rw [Bool.and_eq_true] at hattempted
        cases hname : databaseName order.tenant with
        | ok database => exact ⟨database, hname⟩
        | error defect =>
            rw [executed_eq, query_of_unnamed service state.registry hname] at hattempted
            cases hattempted.2
      · exact ih hlater

/-- The history of a tenant is that of one spelling of it: it has the entries of the attempts that
were made with this spelling, sorted and cut as it is asked for. So two spellings have the same
histories only if nothing is recorded under either of them. An attempt is made on the database that
its tenant stands for, but of all spellings that stand for this database it is visible under the one
that it was made with. -/
theorem histories_follow_spelling (service : Service) (calls : List Call) :
    let state := performAll service calls {}
    (∀ tenant, ∃ entries,
      List.Forall₂ Execution.IsRecordedBy (recordedAs service tenant calls) entries ∧
        ∀ failuresOnly limit, service.history tenant failuresOnly limit state =
          ExecutionLog.newest failuresOnly limit entries) ∧
      (∀ tenant other,
        (∀ failuresOnly limit, service.history tenant failuresOnly limit state =
          service.history other failuresOnly limit state) ↔
        tenant = other ∨
          recordedAs service tenant calls = [] ∧ recordedAs service other calls = []) ∧
      ∀ execution ∈ attempts service calls {}, ∃ database,
        databaseName execution.order.tenant = .ok database ∧
          ∀ spelling,
            (∃ entry ∈ service.history spelling false (-1) state, execution.IsRecordedBy entry) ↔
              service.keepsLog = true ∧ spelling = execution.order.tenant := by
  intro state
  refine ⟨fun tenant ↦ ?_, fun tenant other ↦ same_histories_iff, fun execution hexecution ↦ ?_⟩
  · obtain ⟨entries, hrecorded, -, hhistory⟩ := history_of_recorded service calls tenant
    exact ⟨entries, hrecorded, hhistory⟩
  · obtain ⟨database, hdatabase⟩ := attempt_has_database hexecution
    exact ⟨database, hdatabase, fun spelling ↦ attempt_visible_iff hexecution⟩

/-- A report for a tenant whose name has blanks around it. -/
def spacedReport : Call :=
  .buildReport " south " (.ready filteredReport)

/-- The report is attempted, and it fails. -/
theorem spaced_report_attempted : ∃ execution : Execution,
    execution.order.tenant = " south " ∧ execution.outcome.isOk = false ∧
      attempts cutOff [spacedReport] {} = [execution] ∧
      (performAll cutOff [spacedReport] {}).log.entries = [execution.entry 1] := by
  obtain ⟨compiled, horder⟩ := cut_off_order " south "
  let order : Order := ⟨" south ", filteredReport, compiled, .json⟩
  let failure : Failure := .report (.unreachable "south" "gone")
  let later : Registry := (Registry.acquire cutOff.tenants " south " {}).2
  have hquery : order.query cutOff {} = (.error failure, later) := by
    have hacquire : Registry.acquire cutOff.tenants " south " {} = (.error failure, later) := by rfl
    exact query_of_acquire hacquire
  have hunreachable : (order.query cutOff ({} : ServiceState).registry).1 = .error failure := by
    rw [hquery]
  obtain ⟨hattempted, hfailed⟩ := unreachable_attempted hunreachable
  refine ⟨order.executed cutOff {}, rfl, hfailed, ?_, ?_⟩
  · rw [attempts, attempts, Call.attempt?, spacedReport, horder]
    simp [order, Option.filter, hattempted]
  · rw [perform_all_cons, perform_all_nil, spacedReport, Call.perform_of_order _ horder,
      order_execute_log, Service.logs, hattempted]
    rfl

/-- The attempt is visible with the blanks and not without them. -/
theorem spaced_attempt_visible : ∃ execution ∈ attempts cutOff [spacedReport] {},
    (∃ entry ∈ cutOff.history " south " false (-1) (performAll cutOff [spacedReport] {}),
      execution.IsRecordedBy entry) ∧
    ¬∃ entry ∈ cutOff.history "south" false (-1) (performAll cutOff [spacedReport] {}),
      execution.IsRecordedBy entry := by
  obtain ⟨execution, htenant, -, hattempts, -⟩ := spaced_report_attempted
  have hmem : execution ∈ attempts cutOff [spacedReport] {} := by
    rw [hattempts]
    exact List.mem_singleton_self execution
  obtain ⟨-, -, hvisible⟩ := histories_follow_spelling cutOff [spacedReport]
  obtain ⟨_, -, hspelling⟩ := hvisible execution hmem
  rw [htenant] at hspelling
  refine ⟨execution, hmem, (hspelling " south ").2 ⟨rfl, rfl⟩, fun hfound ↦ ?_⟩
  obtain ⟨-, hsame⟩ := (hspelling "south").1 hfound
  exact absurd hsame (by decide)

/-- Blanks around the name of a database lead to the same database, but to another history: the
attempt with blanks is missing from the history without them. -/
theorem blanks_lose_history :
    databaseName " south " = .ok "south" ∧ databaseName "south" = .ok "south" ∧
      cutOff.history "south" false 50 (performAll cutOff [spacedReport] {}) = [] ∧
      ∃ entry, cutOff.history " south " false 50 (performAll cutOff [spacedReport] {}) = [entry] ∧
        entry.success = false := by
  obtain ⟨execution, htenant, hfailed, -, hentries⟩ := spaced_report_attempted
  have hkeeps : cutOff.keepsLog = true := rfl
  refine ⟨rfl, rfl, ?_, execution.entry 1, ?_, hfailed⟩
  · rw [Service.history, if_pos hkeeps, ExecutionLog.history, hentries]
    simp [htenant, ExecutionLog.upTo]
  · rw [Service.history, if_pos hkeeps, ExecutionLog.history, hentries]
    simp [htenant, ExecutionLog.upTo]

end TenantReporting.Report
