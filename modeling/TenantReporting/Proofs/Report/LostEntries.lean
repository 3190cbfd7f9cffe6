import TenantReporting.Proofs.Report.Attempts

/-!
# What is lost when the log cannot be written

A run in which the log cannot be written now and then is compared with the run in which it can be
written all the time (`Steady`). Both runs answer every call alike and leave the same pools and
engines behind, and the entries of the one are those of the other that could be stored
(`failing_log_changes_no_report`).

If all attempts of a run are written in one session, nothing is pending in it between two of them,
and no failure is left over from one to the next (`follow_stores_entries`).
-/

namespace TenantReporting.Report

open Tenancy (Registry)

/-! ### Reports to the log -/

/-- The execution of a call that is reported to the log of the service. -/
def Call.reported? (service : Service) (call : Call) (state : ServiceState) : Option Execution :=
  ((call.order? service).map (·.executed service state)).filter fun execution ↦
    execution.isAttempt && service.keepsLog

/-- Whether the entries that are made for calls in a row can be stored, in their order. -/
def commits (service : Service) : List Call → ServiceState → List Bool
  | [], _ => []
  | call :: calls, state =>
    ((call.reported? service state).map fun _ ↦ state.log.writable).toList ++
      commits service calls (call.perform service state).2

/-- The session in which the attempts that calls in a row report are written. -/
def LogSession.follow (service : Service) : List Call → ServiceState → LogSession → LogSession
  | [], _, session => session
  | call :: calls, state, session =>
    follow service calls (call.perform service state).2 <|
      match call.reported? service state with
      | none => session
      | some execution =>
        (session.write state.log.writable execution.stop execution.attempt).2

/-- The entry without its number. -/
def LogEntry.unnumbered (entry : LogEntry) : LogEntry :=
  { entry with number := 0 }

/-- Entries of one execution differ in their numbers only. -/
theorem Execution.entry_unnumbered (execution : Execution) (number : Nat) :
    (execution.entry number).unnumbered = execution.entry 0 := rfl

section Steps

variable {service : Service} {state other : ServiceState} (call : Call)

/-- A call stores the entry of the execution that it reports if the log can be written. -/
theorem Call.perform_entries :
    (call.perform service state).2.log.entries =
      state.log.entries ++
        if state.log.writable then
          (call.reported? service state).toList.map (·.entry (state.log.entries.length + 1))
        else [] := by
  cases horder : call.order? service with
  | none =>
      rw [perform_of_no_order state horder, reported?, horder]
      simp
  | some order =>
      have hlog := order_execute_log service state order
      rw [perform_of_order state horder, hlog, reported?, horder, Service.logs]
      cases hattempt : (order.executed service state).isAttempt <;> cases service.keepsLog <;>
        cases state.log.writable <;> simp [Option.filter, hattempt]

/-- What is reported does not depend on the log. -/
theorem Call.reported_of_registry (h : other.registry = state.registry) :
    call.reported? service other = call.reported? service state := by
  unfold reported?
  cases call.order? service with
  | none => rfl
  | some order => rw [Option.map_some, Option.map_some, executed_eq, executed_eq, h]

end Steps

/-! ### Two runs -/

/-- The call as it is made in a run in which the log can be written all the time. -/
def Call.untroubled : Call → Call
  | setWritable _ => setWritable true
  | call => call

/-- The answer, in which no entries of the log are shown. -/
def Answer.withoutEntries : Answer → Answer
  | entries _ => entries []
  | answer => answer

/-- The answers to calls in a row and the states after them. -/
def moments (service : Service) : List Call → ServiceState → List (Answer × ServiceState)
  | [], _ => []
  | call :: calls, state =>
    call.perform service state :: moments service calls (call.perform service state).2

/-- The other state has the same pools and engines, and its log can be written. -/
structure Steady (state other : ServiceState) : Prop where
  registry : other.registry = state.registry
  writable : other.log.writable = true

/-- An untroubled call for a report is the call itself. -/
theorem Call.untroubled_of_order {service : Service} {call : Call} {order : Order}
    (h : call.order? service = some order) : call.untroubled = call := by
  cases call with
  | setWritable writable => cases h
  | _ => rfl

section Runs

variable (service : Service) {state other : ServiceState}

theorem Steady.execute (h : Steady state other) (order : Order) :
    (order.execute service other).1 = (order.execute service state).1 ∧
      Steady (order.execute service state).2 (order.execute service other).2 := by
  refine ⟨?_, ?_, ?_⟩
  · rw [order_execute_eq, order_execute_eq, h.registry]
  · rw [order_execute_registry, order_execute_registry, h.registry]
  · rw [order_execute_writable, h.writable]

/-- A call is answered alike whether or not the log can be written, and it does the same to the
pools and the engines. -/
theorem Steady.perform (h : Steady state other) (call : Call) :
    (call.untroubled.perform service other).1.withoutEntries =
        (call.perform service state).1.withoutEntries ∧
      Steady (call.perform service state).2 (call.untroubled.perform service other).2 := by
  cases horder : call.order? service with
  | some order =>
      obtain ⟨houtcome, hlater⟩ := h.execute service order
      rw [Call.untroubled_of_order horder, Call.perform_of_order state horder,
        Call.perform_of_order other horder, houtcome]
      dsimp only
      exact ⟨rfl, hlater⟩
  | none =>
      cases call with
      | buildReport | generateReport =>
          obtain ⟨answer, hrefused⟩ := Call.perform_of_refused rfl horder
          dsimp only [Call.untroubled]
          rw [hrefused, hrefused]
          exact ⟨rfl, h⟩
      | listTables tenant =>
          -- The tables are read from the tenant's database, so they do not depend on the log.
          dsimp only [Call.untroubled, Call.perform]
          rw [list_tables_eq, list_tables_eq, h.registry]
          dsimp only
          exact ⟨rfl, rfl, h.writable⟩
      | preview source => exact ⟨rfl, h⟩
      | history tenant failuresOnly limit => exact ⟨rfl, h⟩
      | setWritable writable => exact ⟨rfl, h.registry, rfl⟩
      | wait ticks => exact ⟨rfl, congrArg (·.tick ticks) h.registry, h.writable⟩

/-- The reports to the log are the same. -/
theorem Steady.reported (h : Steady state other) (call : Call) :
    call.untroubled.reported? service other = call.reported? service state := by
  rw [← call.reported_of_registry h.registry]
  cases call <;> rfl

/-- All calls in a row are answered alike, and they do the same to the pools and the engines. -/
theorem Steady.moments (h : Steady state other) (calls : List Call) :
    (Report.moments service (calls.map Call.untroubled) other).map
        (fun moment ↦ (moment.1.withoutEntries, moment.2.registry)) =
      (Report.moments service calls state).map
        (fun moment ↦ (moment.1.withoutEntries, moment.2.registry)) := by
  induction calls generalizing state other with
  | nil => rfl
  | cons call calls ih =>
      obtain ⟨hanswer, hlater⟩ := h.perform service call
      rw [List.map_cons, Report.moments, Report.moments, List.map_cons, List.map_cons, ih hlater,
        hanswer, hlater.registry]

/-- Some entries are all of those that could be stored, but for their numbers. -/
structure Keeps (storable : List Bool) (all kept : List LogEntry) : Prop where
  length : all.length = storable.length
  entries : kept.map LogEntry.unnumbered =
    ((all.zip storable).filter (·.2)).map (·.1.unnumbered)

theorem Keeps.append {first second : List Bool} {all allNext kept keptNext : List LogEntry}
    (h : Keeps first all kept) (hnext : Keeps second allNext keptNext) :
    Keeps (first ++ second) (all ++ allNext) (kept ++ keptNext) where
  length := by rw [List.length_append, List.length_append, h.length, hnext.length]
  entries := by
    rw [List.map_append, h.entries, hnext.entries, List.zip_append h.length, List.filter_append,
      List.map_append]

/-- What one call adds to the logs of both runs. -/
theorem Steady.perform_entries (h : Steady state other) (call : Call) :
    ∃ all kept,
      (call.untroubled.perform service other).2.log.entries = other.log.entries ++ all ∧
      (call.perform service state).2.log.entries = state.log.entries ++ kept ∧
      Keeps ((call.reported? service state).map fun _ ↦ state.log.writable).toList all kept := by
  refine ⟨_, _, call.untroubled.perform_entries, call.perform_entries, ?_⟩
  rw [h.writable, if_pos rfl, h.reported service]
  cases call.reported? service state with
  | none => exact ⟨rfl, by simp⟩
  | some execution =>
      refine ⟨rfl, ?_⟩
      cases state.log.writable with
      | false => rfl
      | true => simp [Execution.entry_unnumbered]

/-- The entries of the one run are those of the other one that can be stored. -/
theorem Steady.entries (h : Steady state other) (calls : List Call) :
    ∃ all kept,
      (performAll service (calls.map Call.untroubled) other).log.entries =
        other.log.entries ++ all ∧
      (performAll service calls state).log.entries = state.log.entries ++ kept ∧
      Keeps (commits service calls state) all kept := by
  induction calls generalizing state other with
  | nil => exact ⟨[], [], (List.append_nil _).symm, (List.append_nil _).symm, rfl, rfl⟩
  | cons call calls ih =>
      obtain ⟨-, hlater⟩ := h.perform service call
      obtain ⟨first, firstKept, hfirst, hfirstKept, hkeeps⟩ :=
        h.perform_entries service call
      obtain ⟨all, kept, hall, hkept, hkeepsRest⟩ := ih hlater
      refine ⟨first ++ all, firstKept ++ kept, ?_, ?_, hkeeps.append hkeepsRest⟩
      · rw [← List.append_assoc, ← hfirst, ← hall]
        rfl
      · rw [← List.append_assoc, ← hfirstKept, ← hkept]
        rfl

end Runs

/-- Between calls nothing is pending in the session, and what is stored in it are the entries of the
log. -/
theorem follow_stores_entries (service : Service) (calls : List Call) (state : ServiceState) :
    LogSession.follow service calls state { stored := state.log.entries } =
      { stored := (performAll service calls state).log.entries } := by
  induction calls generalizing state with
  | nil => rfl
  | cons call calls ih =>
      -- A call finds the session with nothing pending and leaves it so, whether or not the entry
      -- could be stored.
      have hwritten : (match call.reported? service state with
          | none => { stored := state.log.entries }
          | some execution => (LogSession.write state.log.writable execution.stop execution.attempt
              { stored := state.log.entries }).2) =
          ({ stored := (call.perform service state).2.log.entries } : LogSession) := by
        rw [call.perform_entries]
        cases call.reported? service state with
        | none => simp
        | some execution =>
            dsimp only
            rw [LogSession.write_eq, Attempt.entryIn, execution.attempt_entry]
            cases state.log.writable with
            | false => simp
            | true => rfl
      rw [LogSession.follow, hwritten, ih]
      rfl

/-- A log that cannot be written changes no report. Whenever it can be written and whenever it
cannot, the answers to all calls but those for histories are the same as if it could be written all
the time, and so are the pools, the events at the engines and the clock after each call. The entries
are those of the other run that could be stored when they were made, but for their numbers. No entry
stays pending, and as soon as the log can be written again the next execution that is reported is
stored under the next number. -/
theorem failing_log_changes_no_report (service : Service) (calls : List Call)
    (state : ServiceState) :
    let steady : ServiceState := { state with log := { state.log with writable := true } }
    let log := (performAll service calls state).log
    (moments service (calls.map Call.untroubled) steady).map
        (fun moment ↦ (moment.1.withoutEntries, moment.2.registry)) =
      (moments service calls state).map
        (fun moment ↦ (moment.1.withoutEntries, moment.2.registry)) ∧
    (∃ all kept,
      (performAll service (calls.map Call.untroubled) steady).log.entries =
        state.log.entries ++ all ∧
      log.entries = state.log.entries ++ kept ∧ Keeps (commits service calls state) all kept) ∧
    LogSession.follow service calls state { stored := state.log.entries } =
      { stored := log.entries } ∧
    ∀ call execution, call.reported? service (performAll service calls state) = some execution →
      (performAll service (calls ++ [.setWritable true, call]) state).log.entries =
        log.entries ++ [execution.entry (log.entries.length + 1)] := by
  intro steady log
  have hsteady : Steady state steady := ⟨rfl, rfl⟩
  refine ⟨hsteady.moments service calls, hsteady.entries service calls,
    follow_stores_entries service calls state, fun call execution hreported ↦ ?_⟩
  -- What is reported depends on the pools only, and these are left as they are when the log becomes
  -- writable again.
  let ready : ServiceState :=
    ⟨(performAll service calls state).registry, { log with writable := true }⟩
  have hready : call.reported? service ready = some execution := by
    rw [← hreported]
    exact call.reported_of_registry rfl
  have hlater : performAll service (calls ++ [.setWritable true, call]) state =
      (call.perform service ready).2 := List.foldl_append
  rw [hlater, call.perform_entries, hready]
  rfl

/-- Of two reports for a database that cannot be reached the first is lost, because the log cannot
be written. The second is stored under the number one as soon as the log can be written again. -/
theorem next_report_stored :
    let report : Call := .buildReport "south" (.ready filteredReport)
    (performAll cutOff [.setWritable false, report] {}).log.entries = [] ∧
      ∃ entry, (performAll cutOff [.setWritable false, report, .setWritable true, report]
        {}).log.entries = [entry] ∧ entry.number = 1 := by
  intro report
  obtain ⟨compiled, horder⟩ := cut_off_order "south"
  let order : Order := ⟨"south", filteredReport, compiled, .json⟩
  let failure : Failure := .report (.unreachable "south" "gone")
  let first : Registry := (Registry.acquire cutOff.tenants "south" {}).2
  let unwritable : ServiceState := ⟨first, { writable := false }⟩
  have hfirst : order.query cutOff {} = (.error failure, first) := by
    have hacquire : Registry.acquire cutOff.tenants "south" {} = (.error failure, first) := by rfl
    exact query_of_acquire hacquire
  have hsecond : order.query cutOff first =
      (.error failure, (Registry.acquire cutOff.tenants "south" first).2) := by
    have hacquire : Registry.acquire cutOff.tenants "south" first =
      (.error failure, (Registry.acquire cutOff.tenants "south" first).2) := by rfl
    exact query_of_acquire hacquire
  have hunreachable : (order.query cutOff unwritable.registry).1 = .error failure := by
    rw [show unwritable.registry = first from rfl, hsecond]
  have hclosed : (Call.perform cutOff (.setWritable false) {}).2 =
      ⟨{}, { writable := false }⟩ := rfl
  have hlost : (report.perform cutOff ⟨{}, { writable := false }⟩).2 = unwritable := by
    rw [Call.perform_of_order _ horder, order_execute_eq]
    dsimp only
    rw [hfirst]
    rfl
  have hstate : performAll cutOff [.setWritable false, report] {} = unwritable := by
    rw [perform_all_cons, hclosed, perform_all_cons, hlost, perform_all_nil]
  have hreported : report.reported? cutOff (performAll cutOff [.setWritable false, report] {}) =
      some (order.executed cutOff unwritable) := by
    have hkeeps : cutOff.keepsLog = true := rfl
    have hattempted : (order.executed cutOff unwritable).isAttempt = true :=
      (unreachable_attempted hunreachable).1
    rw [hstate, Call.reported?, horder, Option.map_some, Option.filter_some_pos]
    rw [hkeeps, hattempted, Bool.and_self]
  obtain ⟨-, -, -, hnext⟩ := failing_log_changes_no_report cutOff [.setWritable false, report] {}
  have hstored : (performAll cutOff [.setWritable false, report, .setWritable true, report]
      {}).log.entries = _ := hnext report _ hreported
  rw [hstate] at hstored ⊢
  exact ⟨rfl, _, hstored, rfl⟩

end TenantReporting.Report
