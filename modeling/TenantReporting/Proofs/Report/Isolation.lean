import TenantReporting.Proofs.Report.Attempts
import TenantReporting.Proofs.Report.History
import TenantReporting.Proofs.Tenancy.Visits

/-!
# Tenants do not influence each other

A run is compared with the run that is left of it when the calls of all other tenants are deleted.
The two runs have different engines, times and numbers of entries, but they agree in what has been
asked of the store of the tenant's database and in what the log says of it (`Twins`). One call keeps
this agreement and is answered alike in both runs (`Twins.perform`), and a call of another tenant
keeps it although it is made in one run only (`Twins.perform_other`).
-/

namespace TenantReporting.Report

open Query (databaseName)
open Tenancy (Registry)

/-! ### What concerns a database -/

/-- The tenant's identification stands for the database. -/
def standsFor (database tenant : String) : Bool :=
  match databaseName tenant with
  | .ok name => name == database
  | .error _ => false

theorem stands_for_iff {database tenant : String} :
    standsFor database tenant = true ↔ databaseName tenant = .ok database := by
  unfold standsFor
  cases databaseName tenant <;> simp

theorem not_stands_for_iff {database tenant : String} :
    standsFor database tenant = false ↔ databaseName tenant ≠ .ok database := by
  rw [← Bool.not_eq_true, stands_for_iff]

/-- The tenant that a call is made for. -/
def Call.tenant? : Call → Option String
  | buildReport tenant _ => some tenant
  | generateReport tenant _ _ => some tenant
  | listTables tenant => some tenant
  | history tenant _ _ => some tenant
  | _ => none

/-- The call is made for the database or for none. -/
def Call.concerns (database : String) (call : Call) : Bool :=
  call.tenant?.all (standsFor database)

/-- A call for a tenant concerns the database that the tenant stands for. -/
theorem Call.concerns_of_tenant {call : Call} {tenant : String} (h : call.tenant? = some tenant)
    (database : String) : call.concerns database = standsFor database tenant := by
  rw [concerns, h, Option.all_some]

/-- Calls in a row with their answers. -/
def transcript (service : Service) : List Call → ServiceState → List (Call × Answer)
  | [], _ => []
  | call :: calls, state =>
    (call, (call.perform service state).1) ::
      transcript service calls (call.perform service state).2

/-- The entry without its number and its time. -/
def LogEntry.blurred (entry : LogEntry) : LogEntry :=
  { entry with number := 0, executedAt := 0 }

/-- The answer, in which entries of the log are without their numbers and times. -/
def Answer.blurred : Answer → Answer
  | .entries found => .entries (found.map LogEntry.blurred)
  | answer => answer

/-- What a log says of a database, but for numbers and times. -/
def ExecutionLog.view (database : String) (log : ExecutionLog) : List LogEntry :=
  (log.entries.filter (standsFor database ·.tenant)).map LogEntry.blurred

/-! ### Settled states -/

/-- Between calls no connection is out, and the entries of the log are in the order of their times
and numbers, of which the next ones are greater. -/
structure Settled (state : ServiceState) : Prop where
  atRest : state.registry.AtRest
  inOrder : ExecutionLog.IsInOrder state.log.entries
  past : ∀ entry ∈ state.log.entries,
    entry.executedAt ≤ Service.now state ∧ entry.number ≤ state.log.entries.length

theorem settled_empty : Settled {} where
  atRest := ⟨rfl, fun _ hpool ↦ nomatch hpool⟩
  inOrder := .nil
  past _ hentry := nomatch hentry

section Steps

variable {service : Service}

/-- Later times leave a state settled. -/
theorem Settled.later {state : ServiceState} (h : Settled state) {registry : Registry}
    (hrest : registry.AtRest) (hclock : state.registry.backend.clock ≤ registry.backend.clock) :
    Settled { state with registry } where
  atRest := hrest
  inOrder := h.inOrder
  past entry hentry :=
    ⟨Int.le_trans (h.past entry hentry).1 hclock, (h.past entry hentry).2⟩

/-- An entry that is made now, under the next number, leaves a state settled. -/
theorem Settled.entry {state : ServiceState} (h : Settled state) {entry : LogEntry}
    (hnumber : entry.number = state.log.entries.length + 1)
    (htime : entry.executedAt = Service.now state) :
    Settled { state with log := { state.log with entries := state.log.entries ++ [entry] } } where
  atRest := h.atRest
  inOrder := by
    dsimp only [ExecutionLog.IsInOrder]
    rw [List.pairwise_append]
    refine ⟨h.inOrder, List.pairwise_singleton .., fun earlier hearlier other hother ↦ ?_⟩
    obtain ⟨hpast, hless⟩ := h.past earlier hearlier
    rw [List.mem_singleton.1 hother, htime, hnumber]
    exact ⟨hpast, Nat.lt_succ_of_le hless⟩
  past other hother := by
    rw [List.length_append, List.length_singleton]
    rcases List.mem_append.1 hother with hother | hother
    · exact ⟨(h.past other hother).1, Nat.le_succ_of_le (h.past other hother).2⟩
    · rw [List.mem_singleton.1 hother, htime, hnumber]
      exact ⟨Int.le_refl _, Nat.le_refl _⟩

/-! ### One execution -/

variable (hpools : 0 ≤ service.tenants.maxPools)
  (hticks : ∀ database attempt, 0 ≤ ((service.tenants.stores database).statement attempt).ticks)

include hpools hticks in
/-- Executing a query leaves nothing behind but for its own database. -/
theorem query_passes (order : Order) {registry : Registry} (h : registry.AtRest) :
    registry.Passes order.tenant (order.query service registry).2 := by
  have hreplies := fun database ↦ Registry.execute_replies service.tenants database
    order.compiled.text order.compiled.parameters
  unfold Order.query
  exact Registry.visit_passes hpools h hreplies fun database demand ↦
    hticks database demand.statements

include hpools in
/-- Reading the tables of a database leaves nothing behind for the others. -/
theorem inspect_passes (tenant : String) {registry : Registry} (h : registry.AtRest) :
    registry.Passes tenant (service.inspect tenant registry).2 := by
  have hreplies := fun database ↦ Registry.describe_replies service.tenants database ""
  unfold Service.inspect
  exact Registry.visit_passes hpools h hreplies fun _ _ ↦ Int.le_refl 0

include hpools hticks in
theorem Settled.execute {state : ServiceState} (h : Settled state) (order : Order) :
    Settled (order.execute service state).2 := by
  have hpasses := query_passes hpools hticks order h.atRest
  have hlater := h.later hpasses.atRest hpasses.clock
  have hregistry := order_execute_registry service state order
  have hlog := order_execute_log service state order
  have htime : ((order.executed service state).entry (state.log.entries.length + 1)).executedAt =
      Service.now { state with registry := (order.query service state.registry).2 } := by
    rw [Execution.entry_executed_at, executed_eq, Service.now]
  have hentry := hlater.entry (Execution.entry_number _ _) htime
  dsimp only at hentry
  generalize (order.execute service state).2 = finished at hregistry hlog ⊢
  obtain ⟨registry, log⟩ := finished
  dsimp only at hregistry hlog
  rw [hregistry, hlog]
  split
  · exact hentry
  · exact hlater

include hpools hticks in
/-- Calls keep states settled, if the clock is not turned back between them. -/
theorem Settled.perform {state : ServiceState} (h : Settled state) {call : Call}
    (hwait : ∀ ticks, call = .wait ticks → 0 ≤ ticks) :
    Settled (call.perform service state).2 := by
  cases horder : call.order? service with
  | some order =>
      rw [Call.perform_of_order state horder]
      dsimp only
      exact h.execute hpools hticks order
  | none =>
      cases call with
      | buildReport | generateReport =>
          obtain ⟨answer, hrefused⟩ := Call.perform_of_refused rfl horder
          rw [hrefused]
          exact h
      | listTables tenant =>
          have hpasses := inspect_passes hpools tenant h.atRest
          dsimp only [Call.perform]
          rw [list_tables_eq]
          exact h.later hpasses.atRest hpasses.clock
      | preview source => exact h
      | history tenant failuresOnly limit => exact h
      | setWritable writable => exact ⟨h.atRest, h.inOrder, h.past⟩
      | wait ticks =>
          have hclock : state.registry.backend.clock ≤ (state.registry.tick ticks).backend.clock :=
            Int.le_add_of_nonneg_right (hwait ticks rfl)
          exact h.later ⟨h.atRest.checkedOut, h.atRest.named⟩ hclock

end Steps

/-! ### Two runs -/

/-- Two states agree in what the store of a database has been asked for, in whether the log can be
written, and in what it says of the database. -/
structure Twins (database : String) (state twin : ServiceState) : Prop where
  demand : twin.registry.backend.demand database = state.registry.backend.demand database
  writable : twin.log.writable = state.log.writable
  view : twin.log.view database = state.log.view database

/-- Executions of one order with one outcome and one duration make entries that differ in number and
time only. -/
theorem entry_blurred_eq {execution other : Execution} (horder : execution.order = other.order)
    (houtcome : execution.outcome = other.outcome)
    (hspan : execution.stop - execution.start = other.stop - other.start) (number another : Nat) :
    (execution.entry number).blurred = (other.entry another).blurred := by
  have hattempt : execution.attempt = other.attempt := by
    unfold Execution.attempt Service.attemptOf
    rw [horder, houtcome, hspan]
  unfold Execution.entry LogEntry.blurred
  rw [hattempt, horder, houtcome]

section Twins

variable {service : Service} {database : String} {state twin : ServiceState}

/-- For registries it matters only what has been asked of the store of the database. -/
theorem Twins.of_demand (h : Twins database state twin) {registry twinRegistry : Registry}
    (hdemand : twinRegistry.backend.demand database = registry.backend.demand database) :
    Twins database { state with registry } { twin with registry := twinRegistry } :=
  ⟨hdemand, h.writable, h.view⟩

/-- What an execution adds to the view of a database. -/
theorem view_execute (order : Order) :
    (order.execute service state).2.log.view database = state.log.view database ++
      if service.logs (order.executed service state) state.log &&
          standsFor database order.tenant then
        [((order.executed service state).entry 0).blurred]
      else [] := by
  rw [order_execute_log]
  unfold ExecutionLog.view
  cases service.logs (order.executed service state) state.log with
  | false => simp
  | true =>
      rw [if_pos rfl, Bool.true_and]
      dsimp only
      rw [List.filter_append, List.map_append]
      cases hstands : standsFor database order.tenant with
      | false => simp [hstands]
      | true =>
          rw [List.filter_cons_of_pos (by simp [hstands])]
          exact congrArg (fun entry ↦ _ ++ [entry]) (entry_blurred_eq rfl rfl rfl _ _)

/-- An execution for another tenant is not noticed. -/
theorem Twins.execute_other (hpools : 0 ≤ service.tenants.maxPools)
    (hticks : ∀ database attempt, 0 ≤ ((service.tenants.stores database).statement attempt).ticks)
    (h : Twins database state twin) (hstate : Settled state) {order : Order}
    (hother : standsFor database order.tenant = false) :
    Twins database (order.execute service state).2 twin where
  demand := by
    have hpasses := query_passes hpools hticks order hstate.atRest
    rw [order_execute_registry, hpasses.demand database (not_stands_for_iff.1 hother), h.demand]
  writable := by rw [order_execute_writable, h.writable]
  view := by
    rw [view_execute, hother, Bool.and_false, if_neg Bool.false_ne_true, List.append_nil, h.view]

/-- A query for the tenant of the database has one outcome in both runs, and takes as long. -/
theorem Twins.query (hpools : 0 ≤ service.tenants.maxPools)
    (hsetup : ∀ attempt, (service.tenants.stores database).setUp attempt = none)
    (h : Twins database state twin) (hstate : Settled state) (htwin : Settled twin) {order : Order}
    (htenant : databaseName order.tenant = .ok database) :
    let done := order.query service state.registry
    let twinDone := order.query service twin.registry
    twinDone.1 = done.1 ∧
      twinDone.2.backend.demand database = done.2.backend.demand database ∧
      twinDone.2.backend.clock - twin.registry.backend.clock =
        done.2.backend.clock - state.registry.backend.clock := by
  unfold Order.query
  exact Registry.visits_alike hpools htenant hsetup hstate.atRest htwin.atRest h.demand
    (Registry.execute_replies service.tenants database order.compiled.text order.compiled.parameters)

/-- An execution for the tenant of the database has one outcome in both runs, and takes as long. -/
theorem Twins.execute (hpools : 0 ≤ service.tenants.maxPools)
    (hsetup : ∀ attempt, (service.tenants.stores database).setUp attempt = none)
    (h : Twins database state twin) (hstate : Settled state) (htwin : Settled twin) {order : Order}
    (htenant : databaseName order.tenant = .ok database) :
    (order.execute service twin).1 = (order.execute service state).1 ∧
      Twins database (order.execute service state).2 (order.execute service twin).2 := by
  obtain ⟨hquery, hdemand, hclock⟩ := h.query hpools hsetup hstate htwin htenant
  have houtcome :
      (order.executed service twin).outcome = (order.executed service state).outcome := by
    rw [executed_eq, executed_eq, hquery]
  have hspan : (order.executed service twin).stop - (order.executed service twin).start =
      (order.executed service state).stop - (order.executed service state).start := by
    rw [executed_eq, executed_eq]
    dsimp only
    exact hclock
  have hlogs : service.logs (order.executed service twin) twin.log =
      service.logs (order.executed service state) state.log := by
    unfold Service.logs Execution.isAttempt
    rw [houtcome, h.writable]
  have horder : (order.executed service twin).order = (order.executed service state).order := by
    rw [executed_order, executed_order]
  have hentry := entry_blurred_eq horder houtcome hspan 0 0
  refine ⟨by rw [order_execute_eq, order_execute_eq, hquery], ?_⟩
  exact {
    demand := by
      rw [order_execute_registry, order_execute_registry]
      exact hdemand
    writable := by rw [order_execute_writable, order_execute_writable, h.writable]
    view := by rw [view_execute, view_execute, hlogs, h.view, hentry] }

/-- Tables that are listed for another tenant are not noticed. -/
theorem Twins.inspect_other (hpools : 0 ≤ service.tenants.maxPools) (h : Twins database state twin)
    (hstate : Settled state) {tenant : String} (hother : standsFor database tenant = false) :
    Twins database { state with registry := (service.inspect tenant state.registry).2 } twin := by
  have hpasses := inspect_passes hpools tenant hstate.atRest
  refine h.of_demand ?_
  rw [hpasses.demand database (not_stands_for_iff.1 hother), h.demand]

/-- Tables that are listed for the tenant of the database are the same in both runs. -/
theorem Twins.inspect (hpools : 0 ≤ service.tenants.maxPools)
    (hsetup : ∀ attempt, (service.tenants.stores database).setUp attempt = none)
    (h : Twins database state twin) (hstate : Settled state) (htwin : Settled twin)
    {tenant : String} (htenant : databaseName tenant = .ok database) :
    (service.inspect tenant twin.registry).1 = (service.inspect tenant state.registry).1 ∧
      Twins database { state with registry := (service.inspect tenant state.registry).2 }
        { twin with registry := (service.inspect tenant twin.registry).2 } := by
  have hreplies := Registry.describe_replies service.tenants database ""
  unfold Service.inspect
  obtain ⟨hanswer, hdemand, -⟩ := Registry.visits_alike hpools htenant hsetup hstate.atRest
    htwin.atRest h.demand hreplies
  exact ⟨hanswer, h.of_demand hdemand⟩

/-- What a history lists of a log is in the view of the tenant's database. -/
theorem listed_of_view {tenant : String} (htenant : databaseName tenant = .ok database)
    (failuresOnly : Bool) (log : ExecutionLog) :
    (log.entries.filter (ExecutionLog.listed tenant failuresOnly)).map LogEntry.blurred =
      (log.view database).filter (ExecutionLog.listed tenant failuresOnly) := by
  -- Neither the number nor the time of an entry decides whether it is listed.
  have hblurred : ExecutionLog.listed tenant failuresOnly ∘ LogEntry.blurred =
    ExecutionLog.listed tenant failuresOnly := rfl
  have hlisted (entry : LogEntry) : (ExecutionLog.listed tenant failuresOnly entry &&
      standsFor database entry.tenant) = ExecutionLog.listed tenant failuresOnly entry := by
    by_cases hentry : entry.tenant = tenant
    · rw [hentry, stands_for_iff.2 htenant, Bool.and_true]
    · simp [ExecutionLog.listed, hentry]
  rw [ExecutionLog.view, List.filter_map, List.filter_filter, hblurred]
  simp only [hlisted]

/-- The history of a tenant of the database is the same in both runs, but for numbers and times. -/
theorem Twins.history (h : Twins database state twin) (hstate : Settled state)
    (htwin : Settled twin) {tenant : String} (htenant : databaseName tenant = .ok database)
    (failuresOnly : Bool) (limit : Int) :
    (service.history tenant failuresOnly limit twin).map LogEntry.blurred =
      (service.history tenant failuresOnly limit state).map LogEntry.blurred := by
  have hmap (entries : List LogEntry) : (ExecutionLog.upTo limit entries).map LogEntry.blurred =
      ExecutionLog.upTo limit (entries.map LogEntry.blurred) := by
    unfold ExecutionLog.upTo
    split
    · rfl
    · rw [List.map_take]
  unfold Service.history
  split
  · rw [ExecutionLog.history_in_order hstate.inOrder, ExecutionLog.history_in_order htwin.inOrder,
      hmap, hmap, List.map_reverse, List.map_reverse, listed_of_view htenant,
      listed_of_view htenant, h.view]
  · rfl

/-! ### Calls and runs -/

theorem tenant_of_order {tenant : String} {source : ConfigSource} {format : Format} {order : Order}
    (h : service.order tenant source format = .ok order) : order.tenant = tenant := by
  unfold Service.order at h
  split at h
  · cases h
  split at h
  · cases h
  · cases h
    rfl

/-- The order of a call is made for the tenant of the call. -/
theorem Call.tenant_of_order {call : Call} {order : Order}
    (h : call.order? service = some order) : call.tenant? = some order.tenant := by
  cases call with
  | buildReport tenant source =>
      have horder : service.order tenant source .json = .ok order :=
        Outcome.to_option_eq_some_iff.1 h
      exact congrArg some (Report.tenant_of_order horder).symm
  | generateReport tenant source format =>
      have horder : service.orderIn tenant source format = .ok order :=
        Outcome.to_option_eq_some_iff.1 h
      unfold Service.orderIn at horder
      split at horder
      · cases horder
      · exact congrArg some (Report.tenant_of_order horder).symm
  | _ => cases h

/-- A call of another tenant is not noticed. -/
theorem Twins.perform_other (hpools : 0 ≤ service.tenants.maxPools)
    (hticks : ∀ database attempt, 0 ≤ ((service.tenants.stores database).statement attempt).ticks)
    (h : Twins database state twin) (hstate : Settled state) {call : Call}
    (hother : call.concerns database = false) :
    Twins database (call.perform service state).2 twin := by
  cases horder : call.order? service with
  | some order =>
      rw [Call.concerns_of_tenant (Call.tenant_of_order horder)] at hother
      rw [Call.perform_of_order state horder]
      dsimp only
      exact h.execute_other hpools hticks hstate hother
  | none =>
      cases call with
      | buildReport | generateReport =>
          obtain ⟨answer, hrefused⟩ := Call.perform_of_refused rfl horder
          rw [hrefused]
          exact h
      | listTables tenant =>
          rw [Call.concerns_of_tenant rfl] at hother
          dsimp only [Call.perform]
          rw [list_tables_eq]
          exact h.inspect_other hpools hstate hother
      | history tenant failuresOnly limit => exact h
      | _ => cases hother

/-- A call of the tenant of the database, or of none, is answered alike in both runs. -/
theorem Twins.perform (hpools : 0 ≤ service.tenants.maxPools)
    (hsetup : ∀ attempt, (service.tenants.stores database).setUp attempt = none)
    (h : Twins database state twin) (hstate : Settled state) (htwin : Settled twin) {call : Call}
    (hconcerns : call.concerns database = true) :
    (call.perform service twin).1.blurred = (call.perform service state).1.blurred ∧
      Twins database (call.perform service state).2 (call.perform service twin).2 := by
  cases horder : call.order? service with
  | some order =>
      rw [Call.concerns_of_tenant (Call.tenant_of_order horder), stands_for_iff] at hconcerns
      obtain ⟨houtcome, hlater⟩ := h.execute hpools hsetup hstate htwin hconcerns
      rw [Call.perform_of_order state horder, Call.perform_of_order twin horder, houtcome]
      dsimp only
      exact ⟨rfl, hlater⟩
  | none =>
      cases call with
      | buildReport | generateReport =>
          obtain ⟨answer, hrefused⟩ := Call.perform_of_refused rfl horder
          rw [hrefused, hrefused]
          exact ⟨rfl, h⟩
      | listTables tenant =>
          rw [Call.concerns_of_tenant rfl, stands_for_iff] at hconcerns
          obtain ⟨htables, hlater⟩ := h.inspect hpools hsetup hstate htwin hconcerns
          dsimp only [Call.perform, Answer.blurred]
          rw [list_tables_eq, list_tables_eq, htables]
          exact ⟨rfl, hlater⟩
      | history tenant failuresOnly limit =>
          rw [Call.concerns_of_tenant rfl, stands_for_iff] at hconcerns
          dsimp only [Call.perform, Answer.blurred]
          rw [h.history hstate htwin hconcerns failuresOnly limit]
          exact ⟨rfl, h⟩
      | preview source => exact ⟨rfl, h⟩
      | setWritable writable => exact ⟨rfl, h.demand, rfl, h.view⟩
      | wait ticks => exact ⟨rfl, h.demand, h.writable, h.view⟩

/-- Runs from two such states have the same transcript of what concerns the database. -/
theorem Twins.transcript (hpools : 0 ≤ service.tenants.maxPools)
    (hsetup : ∀ attempt, (service.tenants.stores database).setUp attempt = none)
    (hticks : ∀ database attempt, 0 ≤ ((service.tenants.stores database).statement attempt).ticks)
    (h : Twins database state twin) (hstate : Settled state) (htwin : Settled twin)
    {calls : List Call} (hwaits : ∀ ticks, Call.wait ticks ∈ calls → 0 ≤ ticks) :
    ((Report.transcript service calls state).filter (·.1.concerns database)).map
        (fun entry ↦ (entry.1, entry.2.blurred)) =
      (Report.transcript service (calls.filter (·.concerns database)) twin).map
        (fun entry ↦ (entry.1, entry.2.blurred)) := by
  induction calls generalizing state twin with
  | nil => rfl
  | cons call calls ih =>
      have hwait (ticks : Int) (heq : call = .wait ticks) : 0 ≤ ticks :=
        hwaits ticks (heq ▸ List.mem_cons_self)
      have hlater := hstate.perform hpools hticks hwait
      have hrest : ∀ ticks, Call.wait ticks ∈ calls → 0 ≤ ticks :=
        fun ticks hmem ↦ hwaits ticks (List.mem_cons_of_mem _ hmem)
      cases hconcerns : call.concerns database with
      | true =>
          obtain ⟨hanswer, htwins⟩ := h.perform hpools hsetup hstate htwin hconcerns
          have halike := ih htwins hlater (htwin.perform hpools hticks hwait) hrest
          simp only [Report.transcript, List.filter_cons, hconcerns, if_true, List.map_cons,
            hanswer, halike]
      | false =>
          -- The twin does not make the call, so it stays where it is.
          have htwins := h.perform_other hpools hticks hstate hconcerns
          have halike := ih htwins hlater htwin hrest
          simp only [Report.transcript, List.filter_cons, hconcerns, Bool.false_eq_true, if_false,
            halike]

end Twins

/-- Deleting the calls of all other tenants from a run leaves the answers to the calls of the tenant
as they were, and so those to calls for no tenant: rows, reports, tables and queries are the same,
or the failures are, and histories are the same but for the numbers and times of their entries. For
this it does not matter how many pools are kept and whether the stores of other databases fail or
take long, as long as engines of the tenant's database can be set up and the clock is never turned
back. -/
theorem tenants_isolated (service : Service) (database : String)
    (hpools : 0 ≤ service.tenants.maxPools)
    (hsetup : ∀ attempt, (service.tenants.stores database).setUp attempt = none)
    (hticks : ∀ database attempt, 0 ≤ ((service.tenants.stores database).statement attempt).ticks)
    (calls : List Call) (hwaits : ∀ ticks, Call.wait ticks ∈ calls → 0 ≤ ticks) :
    ((transcript service calls {}).filter (·.1.concerns database)).map
        (fun entry ↦ (entry.1, entry.2.blurred)) =
      (transcript service (calls.filter (·.concerns database)) {}).map
        (fun entry ↦ (entry.1, entry.2.blurred)) :=
  Twins.transcript hpools hsetup hticks ⟨rfl, rfl, rfl⟩ settled_empty settled_empty hwaits

/-- A tenant is answered alike whether or not another one makes its engine give way in between. -/
theorem crowded_tenant_isolated :
    let service : Service :=
      { tenants := { maxPools := 1, stores := fun _ ↦ { statement := fun _ ↦ { ticks := 3 } } } }
    let report (tenant : String) : Call := .buildReport tenant (.ready filteredReport)
    ((transcript service
        [report "south", report "north", .listTables "north", .wait 4, report " south ",
          .history "north" false 5, .history "south" false 5] {}).filter
          (·.1.concerns "south")).map (fun entry ↦ (entry.1, entry.2.blurred)) =
      (transcript service
        [report "south", .wait 4, report " south ", .history "south" false 5] {}).map
        (fun entry ↦ (entry.1, entry.2.blurred)) := by
  intro service report
  have hticks (database : String) (attempt : Nat) :
      0 ≤ ((service.tenants.stores database).statement attempt).ticks := by
    change (0 : Int) ≤ 3
    decide
  refine tenants_isolated service "south" (by decide) (fun _ ↦ rfl) hticks _ fun ticks hmem ↦ ?_
  simp only [report, List.mem_cons, List.not_mem_nil, reduceCtorEq, false_or, or_false] at hmem
  cases hmem
  decide

end TenantReporting.Report
