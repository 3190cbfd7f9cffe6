import TenantReporting.Proofs.Binary64.Sign
import TenantReporting.Proofs.Query.Compile
import TenantReporting.Proofs.Report.Calls
import TenantReporting.Proofs.Report.LogSession
import TenantReporting.Proofs.Shape.Reader

/-!
# What the log records

An execution that is attempted comes to rows, or it fails at the database. The log of a service has
one entry for each attempted execution that was made while the log could be written, in the order of
the calls, and no other entry (`log_records_attempts`). What a single call adds is told by
`Call.records`; a run of calls adds what the calls of it add.
-/

namespace TenantReporting.Report

open Tenancy (Registry)

/-! ### Executions -/

/-- An execution: the order, the times of its beginning and its end, and what it came to. -/
structure Execution where
  order : Order
  start : Int
  stop : Int
  outcome : Except Failure (List Json)

/-- The execution of an order in a state. -/
def Order.executed (service : Service) (order : Order) (state : ServiceState) : Execution :=
  let done := order.execute service state
  ⟨order, Service.now state, Service.now done.2, done.1⟩

@[simp] theorem executed_order (service : Service) (order : Order) (state : ServiceState) :
    (order.executed service state).order = order := rfl

/-- What the log is told about an execution. -/
def Execution.attempt (execution : Execution) : Attempt :=
  Service.attemptOf execution.order.tenant execution.order.format
    execution.order.config.tables.length execution.start execution.stop execution.outcome

/-- The entry that an execution makes in the log under a number. -/
def Execution.entry (execution : Execution) (number : Nat) : LogEntry :=
  { number
    tenant := execution.order.tenant
    format := execution.attempt.format
    tableCount := execution.attempt.tableCount
    duration := execution.attempt.duration.bind recordedDuration
    rowCount := execution.attempt.rowCount
    success := execution.outcome.isOk
    error := execution.attempt.error.map recordedError
    executedAt := execution.stop }

/-- The entry of what the log is told. -/
theorem Execution.attempt_entry (execution : Execution) (number : Nat) :
    execution.attempt.entry number execution.stop = .ok (execution.entry number) := by
  unfold Execution.entry Execution.attempt Service.attemptOf
  cases execution.outcome <;> rfl

@[simp] theorem Execution.entry_number (execution : Execution) (number : Nat) :
    (execution.entry number).number = number := rfl

@[simp] theorem Execution.entry_tenant (execution : Execution) (number : Nat) :
    (execution.entry number).tenant = execution.order.tenant := rfl

@[simp] theorem Execution.entry_executed_at (execution : Execution) (number : Nat) :
    (execution.entry number).executedAt = execution.stop := rfl

/-- The execution came to rows, or the database could not be reached or did not execute the
query. -/
def Execution.isAttempt (execution : Execution) : Bool :=
  match execution.outcome with
  | .ok _ => true
  | .error (.report error) => error.kind == .execution || error.kind == .connectionUnavailable
  | .error _ => false

/-- The attempted execution of a call in a state in which the log can be written. -/
def Call.attempt? (service : Service) (call : Call) (state : ServiceState) : Option Execution :=
  ((call.order? service).map (·.executed service state)).filter fun execution ↦
    state.log.writable && execution.isAttempt

/-- The attempted executions of calls in a row that are made while the log can be written. -/
def attempts (service : Service) : List Call → ServiceState → List Execution
  | [], _ => []
  | call :: calls, state =>
    (call.attempt? service state).toList ++ attempts service calls (call.perform service state).2

/-- How many tables a configuration names as it is handed over. One that has not been read may leave
them out. -/
def ConfigSource.tableCount : ConfigSource → Nat
  | .ready config => config.tables.length
  | .unread (.object entries) => (((Json.entry? entries "tables").bind Json.items?).getD []).length
  | .unread _ => 0

/-! ### Entries -/

/-- The text is a message, or what is left of a long message: its beginning and an ellipsis. -/
structure Abridges (text message : String) : Prop where
  length_le : text.toList.length ≤ 1000
  whole : message.toList.length ≤ 1000 → text = message
  cut : 1000 < message.toList.length → text.toList = message.toList.take 997 ++ ['.', '.', '.']

/-- The entry tells of an outcome: how many rows there were, or with which message it failed. -/
def LogEntry.Tells (entry : LogEntry) : Except Failure (List Json) → Prop
  | .ok rows =>
    entry.success = true ∧ entry.rowCount = some (rows.length : Int) ∧ entry.error = none
  | .error failure =>
    entry.success = false ∧ entry.rowCount = none ∧
      ∃ text, entry.error = some text ∧ Abridges text failure.message

/-- The entry records the execution. Its duration is zero where the clock went back. -/
structure Execution.IsRecordedBy (execution : Execution) (entry : LogEntry) : Prop where
  tenant : entry.tenant = execution.order.tenant
  format : entry.format = execution.order.format.name
  tableCount : entry.tableCount = some (execution.order.config.tables.length : Int)
  duration : entry.duration =
    some (.ofInt (max 0 ((execution.stop - execution.start) * Calendar.millisecondsPerTick)))
  duration_nonneg : entry.duration.map Binary64.isBelowZero = some false
  executedAt : entry.executedAt = execution.stop
  outcome : entry.Tells execution.outcome

/-- Errors are recorded in at most a thousand characters. -/
theorem recorded_error_abridges (message : String) : Abridges (recordedError message) message := by
  unfold recordedError
  split
  next hlong =>
    rw [maxErrorLength] at hlong
    have hellipsis : "...".toList = ['.', '.', '.'] := rfl
    have hcut : (String.ofList (message.toList.take (maxErrorLength - 3)) ++ "...").toList =
        message.toList.take 997 ++ ['.', '.', '.'] := by
      rw [String.toList_append, String.toList_ofList, hellipsis, maxErrorLength]
    refine ⟨?_, fun hshort ↦ absurd hshort (Nat.not_le.2 hlong), fun _ ↦ hcut⟩
    rw [hcut, List.length_append, List.length_take]
    simp only [List.length_cons, List.length_nil]
    omega
  next hshort =>
    rw [maxErrorLength, Nat.not_lt] at hshort
    exact ⟨hshort, fun _ ↦ rfl, fun hlong ↦ absurd hshort (Nat.not_le.2 hlong)⟩

/-- A time span is recorded unless it is negative, which counts as none. -/
theorem recorded_duration_of_int (span : Int) :
    recordedDuration (.ofInt span) = some (.ofInt (max 0 span)) := by
  unfold recordedDuration
  split
  next hmissing => exact absurd hmissing (Binary64.of_int_ne_missing span)
  next =>
    rw [Binary64.of_int_is_below_zero, Binary64.of_int_is_zero]
    by_cases hpositive : 0 < span
    · have hmax : max 0 span = span := by omega
      rw [hmax, decide_eq_false (by omega : ¬span < 0), decide_eq_false (by omega : span ≠ 0),
        Bool.or_self, if_neg Bool.false_ne_true]
    · have hmax : max 0 span = 0 := by omega
      rw [hmax, if_pos]
      · rfl
      · rcases Int.lt_or_eq_of_le (Int.not_lt.1 hpositive) with hspan | hspan <;> simp [hspan]

/-! ### One call -/

section Steps

variable (service : Service) (state : ServiceState)

/-- The outcomes that are recorded are those of attempted executions: every reporting error that
refuses nothing is a failure at the database. -/
theorem is_recorded_eq (execution : Execution) :
    Service.isRecorded execution.outcome = execution.isAttempt := by
  unfold Service.isRecorded Execution.isAttempt
  cases execution.outcome with
  | ok rows => rfl
  | error failure =>
      cases failure with
      | report error => cases error <;> rfl
      | _ => rfl

/-- Noting an attempt changes the log only. -/
theorem note_registry (attempt : Attempt) :
    (service.note attempt state).registry = state.registry := by
  unfold Service.note
  split <;> rfl

/-- An execution ends when its query does. -/
theorem order_execute_registry (order : Order) :
    (order.execute service state).2.registry = (order.query service state.registry).2 := by
  rw [order_execute_eq]
  dsimp only
  split
  · rw [note_registry]
  · rfl

/-- An execution is that of its query, and it ends when the query does. -/
theorem executed_eq (order : Order) :
    order.executed service state =
      ⟨order, state.registry.backend.clock, (order.query service state.registry).2.backend.clock,
        (order.query service state.registry).1⟩ := by
  dsimp only [Order.executed, Service.now]
  rw [order_execute_registry, order_execute_eq]

/-- A writable log takes the entry of an execution under the next number, and any other log
nothing. -/
theorem record_execution_eq (execution : Execution) (log : ExecutionLog) :
    (log.record execution.stop execution.attempt).2 =
      if log.writable then
        { log with entries := log.entries ++ [execution.entry (log.entries.length + 1)] }
      else log := by
  rw [ExecutionLog.record_eq, Attempt.entryIn, execution.attempt_entry]
  cases log.writable <;> rfl

/-- The service keeps a log that takes the entry of the execution. -/
def Service.logs (service : Service) (execution : Execution) (log : ExecutionLog) : Bool :=
  service.keepsLog && (log.writable && execution.isAttempt)

/-- An execution that is an attempt is reported to the log that the service keeps. -/
theorem order_execute_record (order : Order) :
    let execution := order.executed service state
    (order.execute service state).2.log =
      if execution.isAttempt && service.keepsLog then
        (state.log.record execution.stop execution.attempt).2
      else state.log := by
  have hattempt := is_recorded_eq (order.executed service state)
  rw [executed_eq] at hattempt ⊢
  dsimp only at hattempt ⊢
  rw [order_execute_eq, hattempt]
  cases Execution.isAttempt _ with
  | false => rfl
  | true =>
      rw [if_pos rfl, Bool.true_and, Service.note]
      split
      · dsimp only [Service.now, Execution.attempt]
      · rfl

/-- What an execution does to the log. -/
theorem order_execute_log (order : Order) :
    (order.execute service state).2.log =
      if service.logs (order.executed service state) state.log then
        { state.log with
          entries := state.log.entries ++
            [(order.executed service state).entry (state.log.entries.length + 1)] }
      else state.log := by
  rw [order_execute_record, record_execution_eq, Service.logs]
  cases (order.executed service state).isAttempt <;> cases service.keepsLog <;> simp

/-- Executions do not decide whether the log can be written. -/
theorem order_execute_writable (order : Order) :
    (order.execute service state).2.log.writable = state.log.writable := by
  rw [order_execute_log]
  split <;> rfl

/-- The duration in an entry is the time from the beginning to the end of the execution. -/
theorem Execution.entry_duration (execution : Execution) (number : Nat) :
    (execution.entry number).duration =
      some (.ofInt (max 0 ((execution.stop - execution.start) * Calendar.millisecondsPerTick))) := by
  rw [← recorded_duration_of_int]
  unfold Execution.entry Execution.attempt Service.attemptOf
  cases execution.outcome <;> rfl

theorem Execution.entry_tells (execution : Execution) (number : Nat) :
    (execution.entry number).Tells execution.outcome := by
  unfold Execution.entry Execution.attempt Service.attemptOf
  cases execution.outcome with
  | ok rows => exact ⟨rfl, rfl, rfl⟩
  | error failure => exact ⟨rfl, rfl, _, rfl, recorded_error_abridges failure.message⟩

/-- The entry of an execution records it, whatever its number is. -/
theorem entry_records (execution : Execution) (number : Nat) :
    execution.IsRecordedBy (execution.entry number) where
  tenant := rfl
  format := by
    unfold Execution.entry Execution.attempt Service.attemptOf
    cases execution.outcome <;> rfl
  tableCount := by
    unfold Execution.entry Execution.attempt Service.attemptOf
    cases execution.outcome <;> rfl
  duration := execution.entry_duration number
  duration_nonneg := by
    rw [Execution.entry_duration, Option.map_some, Binary64.of_int_is_below_zero,
      decide_eq_false (by omega)]
  executedAt := rfl
  outcome := execution.entry_tells number

/-- What some entries add to a log: they record the executions, under the numbers that follow. -/
structure Extends (log : ExecutionLog) (executions : List Execution) (added : List LogEntry) :
    Prop where
  recorded : List.Forall₂ Execution.IsRecordedBy executions added
  numbers : added.map (·.number) = List.range' (log.entries.length + 1) added.length

/-- A call adds an entry for its attempted execution, if there is one and the log can be written. -/
theorem Call.records (hlog : service.keepsLog = true) (call : Call) :
    ∃ added, (call.perform service state).2.log.entries = state.log.entries ++ added ∧
      Extends state.log (call.attempt? service state).toList added := by
  have hnothing (hentries : (call.perform service state).2.log.entries = state.log.entries)
      (hattempt : call.attempt? service state = none) :
      ∃ added, (call.perform service state).2.log.entries = state.log.entries ++ added ∧
        Extends state.log (call.attempt? service state).toList added := by
    rw [hentries, hattempt]
    exact ⟨[], (List.append_nil _).symm, .nil, rfl⟩
  cases horder : call.order? service with
  | none => exact hnothing (perform_of_no_order state horder) (by rw [attempt?, horder]; rfl)
  | some order =>
      have hstate := congrArg Prod.snd (perform_of_order state horder)
      have hexecuted := order_execute_log service state order
      have hlogs : service.logs (order.executed service state) state.log =
          (state.log.writable && (order.executed service state).isAttempt) := by
        rw [Service.logs, hlog, Bool.true_and]
      rw [hlogs] at hexecuted
      cases hkept : (state.log.writable && (order.executed service state).isAttempt) with
      | false =>
          rw [hkept, if_neg Bool.false_ne_true] at hexecuted
          refine hnothing (by rw [hstate, hexecuted]) ?_
          simp [attempt?, horder, Option.filter, hkept]
      | true =>
          rw [hkept, if_pos rfl] at hexecuted
          have hattempt : call.attempt? service state = some (order.executed service state) := by
            simp [attempt?, horder, Option.filter, hkept]
          rw [hstate, hexecuted, hattempt]
          exact ⟨[(order.executed service state).entry (state.log.entries.length + 1)], rfl,
            .cons (entry_records _ _) .nil, rfl⟩

/-- Calls in a row add the entries that they add one after another. -/
theorem perform_all_records (hlog : service.keepsLog = true) (calls : List Call) :
    ∃ added, (performAll service calls state).log.entries = state.log.entries ++ added ∧
      Extends state.log (attempts service calls state) added := by
  induction calls generalizing state with
  | nil => exact ⟨[], (List.append_nil _).symm, .nil, rfl⟩
  | cons call calls ih =>
      obtain ⟨first, hfirst, hrecorded, hnumbers⟩ := Call.records service state hlog call
      obtain ⟨rest, hrest, hrestRecorded, hrestNumbers⟩ := ih (call.perform service state).2
      refine ⟨first ++ rest, ?_, ?_, ?_⟩
      · rw [← List.append_assoc, ← hfirst, ← hrest]
        rfl
      · exact List.rel_append hrecorded hrestRecorded
      · rw [List.map_append, hnumbers, hrestNumbers, hfirst, List.length_append, List.length_append]
        rw [Nat.add_right_comm, List.range'_append_1]

end Steps

/-! ### The whole log -/

/-- The tables of a configuration that has been read are those that it named before. -/
theorem table_count_of_read {source : ConfigSource} {config : ReportConfig}
    (h : source.read = .ok config) : source.tableCount = config.tables.length := by
  cases source with
  | ready given =>
      cases h
      rfl
  | unread value =>
      unfold ConfigSource.read Query.configOf at h
      dsimp only at h
      split at h
      next entries =>
        rw [Outcome.mapError_eq_ok_iff] at h
        cases hread : ReportConfig.reader [] (.object entries) with
        | accepted read =>
            rw [hread] at h
            cases h
            exact (tables_of_accepted hread).symm
        | refused defects =>
            rw [hread] at h
            cases h
      · cases h

/-- The log of a service that began without entries has one for each attempted execution that was
made while the log could be written, in the order of the calls and numbered from one, and no other.
What it says of the execution is what the execution was; the tables are those of the compiled
configuration, as many as it named when it was handed over. -/
theorem log_records_attempts (service : Service) (hlog : service.keepsLog = true)
    (state : ServiceState) (hempty : state.log.entries = []) (calls : List Call) :
    let log := (performAll service calls state).log
    List.Forall₂ Execution.IsRecordedBy (attempts service calls state) log.entries ∧
      log.entries.map (·.number) = List.range' 1 log.entries.length ∧
      ∀ (source : ConfigSource) (config : ReportConfig),
        source.read = .ok config → source.tableCount = config.tables.length := by
  intro log
  obtain ⟨added, hentries, hrecorded, hnumbers⟩ := perform_all_records service state hlog calls
  rw [hempty, List.nil_append] at hentries
  rw [hempty] at hnumbers
  have hadded : log.entries = added := hentries
  rw [hadded]
  exact ⟨hrecorded, hnumbers, fun _ _ ↦ table_count_of_read⟩

/-- Of two executions that cannot reach the database the first is lost because the log cannot be
written, and the second is recorded under the number one. -/
theorem lost_attempt_not_recorded :
    let store : Tenancy.Store := { connect := fun _ ↦ some ⟨.driver, "gone"⟩ }
    let service : Service := { tenants := { stores := fun _ ↦ store } }
    let report : Call := .buildReport "south" (.ready filteredReport)
    let calls : List Call := [.setWritable false, report, .wait (-8), .setWritable true, report]
    ∃ entry, (performAll service calls {}).log.entries = [entry] ∧ entry.number = 1 ∧
      entry.tenant = "south" ∧ entry.success = false ∧ entry.duration = some .zero := by
  intro store service report calls
  obtain ⟨compiled, hcompiled⟩ := filtered_report_compiles
  let order : Order := ⟨"south", filteredReport, compiled, .json⟩
  have horder : report.order? service = some order := by
    rw [Call.order?, Service.order_eq_ok hcompiled]
    rfl
  let failure : Failure := .report (.unreachable "south" "gone")
  let first : Registry := (Registry.acquire service.tenants "south" {}).2
  let second : Registry := (Registry.acquire service.tenants "south" (first.tick (-8))).2
  have hfirst : order.query service {} = (.error failure, first) := by
    have hacquire : Registry.acquire service.tenants "south" {} = (.error failure, first) := by rfl
    rw [Order.query, Registry.withConnection, hacquire]
  have hsecond : order.query service (first.tick (-8)) = (.error failure, second) := by
    have hacquire : Registry.acquire service.tenants "south" (first.tick (-8)) =
      (.error failure, second) := by rfl
    rw [Order.query, Registry.withConnection, hacquire]
  have hlost : (report.perform service ⟨{}, { writable := false }⟩).2 =
      ⟨first, { writable := false }⟩ := by
    rw [Call.perform_of_order _ horder, order_execute_eq]
    dsimp only
    rw [hfirst]
    rfl
  have hattempts : attempts service calls {} = [⟨order, -8, -8, .error failure⟩] := by
    have hattempt (state : ServiceState) : report.attempt? service state =
        (some (order.executed service state)).filter fun execution ↦
          state.log.writable && execution.isAttempt := by
      rw [Call.attempt?, horder]
      rfl
    have hclosed : (Call.perform service (.setWritable false) {}).2 =
      ⟨{}, { writable := false }⟩ := rfl
    have hwaited : (Call.perform service (.wait (-8)) ⟨first, { writable := false }⟩).2 =
      ⟨first.tick (-8), { writable := false }⟩ := rfl
    have hopened : (Call.perform service (.setWritable true)
      ⟨first.tick (-8), { writable := false }⟩).2 = ⟨first.tick (-8), {}⟩ := rfl
    simp only [calls, attempts, hattempt, hclosed, hlost, hwaited, hopened, executed_eq, hsecond]
    rfl
  obtain ⟨hrecorded, hnumbers, -⟩ := log_records_attempts service rfl {} rfl calls
  rw [hattempts, List.forall₂_cons_left_iff] at hrecorded
  obtain ⟨entry, rest, hentry, hrest, hentries⟩ := hrecorded
  cases hrest
  rw [hentries] at hnumbers
  obtain ⟨hsuccess, -⟩ := hentry.outcome
  exact ⟨entry, hentries, (List.cons.inj hnumbers).1, hentry.tenant, hsuccess, hentry.duration⟩

/-! ### A service that reaches no database -/

/-- A service of which no database can be reached. -/
def cutOff : Service :=
  { tenants := { stores := fun _ ↦ { connect := fun _ ↦ some ⟨.driver, "gone"⟩ } } }

/-- Such a service takes orders all the same. -/
theorem cut_off_order (tenant : String) : ∃ compiled,
    (Call.buildReport tenant (.ready filteredReport)).order? cutOff =
      some ⟨tenant, filteredReport, compiled, .json⟩ := by
  obtain ⟨compiled, hcompiled⟩ := filtered_report_compiles
  refine ⟨compiled, ?_⟩
  rw [Call.order?, Service.order_eq_ok hcompiled]
  rfl

/-- An execution that cannot reach its database is an attempt. -/
theorem unreachable_attempted {service : Service} {order : Order} {state : ServiceState}
    {database reason : String}
    (h : (order.query service state.registry).1 = .error (.report (.unreachable database reason))) :
    (order.executed service state).isAttempt = true ∧
      (order.executed service state).outcome.isOk = false := by
  have houtcome : (order.executed service state).outcome =
      .error (.report (.unreachable database reason)) := by
    rw [executed_eq, ← h]
  rw [Execution.isAttempt, houtcome]
  exact ⟨rfl, rfl⟩

end TenantReporting.Report
