import TenantReporting.Proofs.Outcome
import TenantReporting.Proofs.Query.Compile
import TenantReporting.Proofs.Report.Calls
import TenantReporting.Proofs.Report.Csv

/-!
# Refusals come before effects

A request is refused for its configuration, its format, one of the values in it, or its tenant. All
of these are decided before an engine is asked for, so a refused call leaves the pools, their
statistics, the events at the engines and the log as they were (`refusals_change_nothing`). Failures
of the stores are none of these kinds, and the format that has been accepted before a report is
executed is the one in which it is rendered.
-/

namespace TenantReporting

/-- The failure refuses a request: its configuration is malformed, its format is not supported, or a
value in it is not valid. -/
def Failure.isRefusal : Failure → Bool
  | .report error => error.kind.isRefusal
  | _ => false

namespace Tenancy.Registry

open Query (databaseName)

variable (tenants : Tenants) (registry : Registry)

/-- A fault in connecting refuses nothing. -/
theorem connect_failure_no_refusal (database : String) (fault : StoreFault) :
    (connectFailure database fault).isRefusal = false := by
  unfold connectFailure
  split <;> rfl

theorem execution_failure_no_refusal (fault : StoreFault) :
    (executionFailure fault).isRefusal = false := by
  unfold executionFailure
  split <;> rfl

theorem engine_of_no_refusal {database : String} {failure : Failure}
    (h : (engineOf tenants database registry).1 = .error failure) : failure.isRefusal = false := by
  unfold engineOf at h
  split at h
  · cases h
  split at h
  · cases h
    rfl
  split at h
  next hevicted =>
    cases h
    unfold evict at hevicted
    split at hevicted
    · cases hevicted
      rfl
    · cases hevicted
  · cases h

/-- A tenant is refused before anything happens. -/
theorem engine_refused {tenant : String} {failure : Failure}
    (h : (engine tenants tenant registry).1 = .error failure)
    (hrefusal : failure.isRefusal = true) :
    (engine tenants tenant registry).2 = registry := by
  unfold engine at h ⊢
  split
  · rfl
  next database hname =>
    rw [hname] at h
    rw [engine_of_no_refusal tenants registry h] at hrefusal
    cases hrefusal

theorem acquire_refused {tenant : String} {failure : Failure}
    (h : (acquire tenants tenant registry).1 = .error failure)
    (hrefusal : failure.isRefusal = true) : (acquire tenants tenant registry).2 = registry := by
  unfold acquire at h ⊢
  split
  · rfl
  next database hname =>
    have hengine (hfailed : (engine tenants database registry).1 = .error failure) :
        (engine tenants database registry).2 = registry :=
      engine_refused tenants registry hfailed hrefusal
    rw [hname] at h
    dsimp only at h ⊢
    rcases hopened : engine tenants database registry with ⟨other | engine, middle⟩
    · rw [hopened] at h hengine
      cases h
      exact hengine rfl
    · rw [hopened] at h
      dsimp only at h
      split at h
      · cases h
        rw [connect_failure_no_refusal] at hrefusal
        cases hrefusal
      · cases h

/-- A question that cannot be answered is not refused. -/
theorem ask_no_refusal {α β : Type} {connection : Connection}
    {question : Backend → Except StoreFault α × Backend} {make : α → β} {failure : Failure}
    (h : (ask connection question make registry).1 = .error failure) :
    failure.isRefusal = false := by
  cases hout : registry.isOut connection with
  | false =>
      rw [ask_of_released question make hout] at h
      cases h
      rfl
  | true =>
      cases hanswer : (question registry.backend).1 with
      | error fault =>
          rw [ask_of_fault hout hanswer] at h
          cases h
          exact execution_failure_no_refusal fault
      | ok answer =>
          rw [ask_of_answer hout hanswer] at h
          cases h

/-- Where the use of a connection refuses nothing, a scope that ends with a refusal has not been
entered, and nothing has happened. -/
theorem with_connection_refused {α : Type} {tenant : String} {use : Connection → Operation α}
    (huse : ∀ connection opened failure, (use connection opened).1 = .error failure →
      failure.isRefusal = false)
    {failure : Failure} (h : (withConnection tenants tenant use registry).1 = .error failure)
    (hrefusal : failure.isRefusal = true) :
    (withConnection tenants tenant use registry).2 = registry := by
  have hacquire (hfailed : (acquire tenants tenant registry).1 = .error failure) :
      (acquire tenants tenant registry).2 = registry :=
    acquire_refused tenants registry hfailed hrefusal
  unfold withConnection at h ⊢
  rcases hopened : acquire tenants tenant registry with ⟨other | connection, opened⟩
  · rw [hopened] at h hacquire
    cases h
    exact hacquire rfl
  · rw [hopened] at h
    rw [huse connection opened failure h] at hrefusal
    cases hrefusal

end Tenancy.Registry

namespace Report

open Tenancy (Registry)

variable {service : Service} {state : ServiceState} {failure : Failure}

/-- An execution that is refused changes nothing, and it is not recorded. -/
theorem order_execute_refused {order : Order}
    (h : (order.execute service state).1 = .error failure) (hrefusal : failure.isRefusal = true) :
    (order.execute service state).2 = state := by
  rw [order_execute_eq] at h ⊢
  have hquery : (order.query service state.registry).1 = .error failure := h
  have hregistry : (order.query service state.registry).2 = state.registry :=
    Registry.with_connection_refused service.tenants state.registry
      (fun _ opened _ ↦ Registry.ask_no_refusal opened) hquery hrefusal
  have hunrecorded : Service.isRecorded (order.query service state.registry).1 = false := by
    rw [hquery]
    cases failure with
    | report error =>
        have hkind : error.kind.isRefusal = true := hrefusal
        rw [Service.isRecorded, hkind]
        rfl
    | _ => rfl
  dsimp only
  rw [hunrecorded, hregistry]
  rfl

/-- Tables that have been read are refused by no check of their description. -/
theorem check_tables_no_refusal {tables : List Tenancy.TableDescription}
    (h : tables.mapM Service.checkTable = .error failure) : failure.isRefusal = false := by
  have hends : Outcome.Ends (fun failure ↦ Failure.isRefusal failure = false)
      (fun tables ↦ ∀ table ∈ tables, True) (tables.mapM Service.checkTable) := by
    refine .mapM fun table _ ↦ ?_
    unfold Service.checkTable
    split
    · trivial
    · rfl
  rw [h] at hends
  exact hends

theorem list_tables_refused {tenant : String}
    (h : (service.listTables tenant state).1 = .error failure)
    (hrefusal : failure.isRefusal = true) : (service.listTables tenant state).2 = state := by
  rw [list_tables_eq] at h ⊢
  cases hread : (service.inspect tenant state.registry).1 with
  | error other =>
      rw [hread] at h
      cases h
      have hregistry : (service.inspect tenant state.registry).2 = state.registry :=
        Registry.with_connection_refused service.tenants state.registry
          (fun _ opened _ ↦ Registry.ask_no_refusal opened) hread hrefusal
      dsimp only
      rw [hregistry]
  | ok tables =>
      rw [hread] at h
      rw [check_tables_no_refusal h] at hrefusal
      cases hrefusal

theorem build_report_refused {tenant : String} {source : ConfigSource}
    (h : (service.buildReport tenant source state).1 = .error failure)
    (hrefusal : failure.isRefusal = true) :
    (service.buildReport tenant source state).2 = state := by
  rw [build_report_eq] at h ⊢
  cases horder : service.order tenant source .json with
  | error other => rfl
  | ok order =>
      rw [horder] at h
      dsimp only at h ⊢
      exact order_execute_refused h hrefusal

/-- A text stands for the format that it names. -/
theorem format_of_text {text : String} {format : Format} (h : Format.ofText? text = some format) :
    formatOf (.text text) = .ok format := by
  have hdisplay : (Json.text text).display = .ok text := rfl
  unfold formatOf
  dsimp only
  rw [hdisplay]
  dsimp only
  rw [h]

/-- A format that has been accepted is built in or has a renderer. -/
theorem renderable_of_check_format {renderers : Renderers} {given : Json} {format : Format}
    (h : checkFormat renderers given = .ok format) :
    format = .json ∨ format = .csv ∨ ∃ render, renderers format = some render := by
  unfold checkFormat at h
  split at h
  · cases h
  · cases h
    exact .inl rfl
  · cases h
    exact .inr (.inl rfl)
  · split at h
    next hrenderer =>
      cases h
      exact .inr (.inr (Option.isSome_iff_exists.1 hrenderer))
    next => cases h

/-- Why rows that are there may not be rendered: a value is no row, or is not used as one, or a cell
has no text. -/
inductive RenderingFailure : Failure → Prop where
  | row (defect : RowDefect) : RenderingFailure (.row defect)
  | numeral : RenderingFailure (.numeral .tooLong)

theorem table_ends (rows : List Row) :
    Outcome.Ends RenderingFailure (fun _ ↦ True) ((Csv.table rows).mapError .numeral) := by
  cases rows with
  | nil => trivial
  | cons first rest =>
      have hwritten := Csv.rows_written first rest
      rw [Csv.table]
      cases hrows : (first :: rest).mapM (Csv.cells (Csv.columns first)) with
      | error fault =>
          rw [hrows] at hwritten
          rw [hwritten.fault_eq]
          exact .numeral
      | ok records => trivial

/-- Rows are written as CSV, unless one of them is no record or has a cell without a text. -/
theorem write_ends (rows : List Json) :
    Outcome.Ends RenderingFailure (fun _ ↦ True) (Csv.write rows) := by
  unfold Csv.write
  split
  · trivial
  next entries rest =>
    have hrest :
        Outcome.Ends RenderingFailure (fun _ ↦ True) ((rest.mapM Csv.rowOf).mapError .row) := by
      cases rest.mapM Csv.rowOf with
      | error defect => exact .row defect
      | ok rest => trivial
    refine hrest.bind fun rest _ ↦ ?_
    exact (table_ends (entries :: rest)).bind fun _ _ ↦ trivial
  next => exact .row _

theorem csv_ends (rows : List Json) :
    Outcome.Ends RenderingFailure (fun _ ↦ True) ((Csv.writeValue (.list rows)).map Json.text) := by
  have hwritten : Outcome.Ends RenderingFailure (fun _ ↦ True) (Csv.writeValue (.list rows)) := by
    unfold Csv.writeValue
    split
    · trivial
    · exact write_ends rows
  cases hcsv : Csv.writeValue (.list rows) with
  | error failure =>
      rw [hcsv] at hwritten
      exact hwritten
  | ok text => trivial

/-- Rows are rendered in an accepted format, but for CSV, in which every row has to be a record with
a text for each cell. -/
theorem render_as_ends {renderers : Renderers} {given : Json} {format : Format}
    (h : checkFormat renderers given = .ok format) (rows : List Json) :
    Outcome.Ends RenderingFailure
      (fun rendered ↦ rendered.format = format ∧ rendered.rowCount = rows.length)
      (renderAs renderers format (.list rows)) := by
  have hdata : Outcome.Ends RenderingFailure (fun _ ↦ True)
      (dataIn renderers format (.list rows)) := by
    have hrenderable := renderable_of_check_format h
    cases format with
    | json => trivial
    | csv => exact csv_ends rows
    | pdf | excel =>
        simp only [reduceCtorEq, false_or] at hrenderable
        obtain ⟨render, hrender⟩ := hrenderable
        simp only [dataIn, hrender]
        trivial
  exact hdata.bind fun data _ ↦ ⟨rfl, rfl⟩

/-- The format of an order is the one that has been accepted. -/
theorem order_in_format {tenant : String} {source : ConfigSource} {format : Json} {order : Order}
    (h : service.orderIn tenant source format = .ok order) :
    checkFormat service.renderers format = .ok order.format := by
  unfold Service.orderIn at h
  split at h
  · cases h
  next accepted haccepted =>
    rw [haccepted]
    unfold Service.order at h
    split at h
    · cases h
    split at h
    · cases h
    · cases h
      rfl

theorem generate_report_refused {tenant : String} {source : ConfigSource} {format : Json}
    (h : (service.generateReport tenant source format state).1 = .error failure)
    (hrefusal : failure.isRefusal = true) :
    (service.generateReport tenant source format state).2 = state := by
  rw [generate_report_eq] at h ⊢
  cases horder : service.orderIn tenant source format with
  | error other => rfl
  | ok order =>
      rw [horder] at h
      dsimp only at h ⊢
      cases hrows : (order.execute service state).1 with
      | error other =>
          rw [hrows] at h
          cases h
          exact order_execute_refused hrows hrefusal
      | ok rows =>
          rw [hrows] at h
          have hends := render_as_ends (order_in_format horder) rows
          have hrendered : renderAs service.renderers order.format (.list rows) =
            .error failure := h
          rw [hrendered] at hends
          cases hends with
          | row | numeral => cases hrefusal

/-- A call that is refused changes nothing. -/
theorem Call.refused {call : Call} (h : (call.perform service state).1.failure? = some failure)
    (hrefusal : failure.isRefusal = true) : (call.perform service state).2 = state := by
  cases call with
  | preview source => rfl
  | buildReport tenant source =>
      dsimp only [perform, Answer.failure?] at h ⊢
      exact build_report_refused (failure_of_eq_some_iff.1 h) hrefusal
  | generateReport tenant source format =>
      dsimp only [perform, Answer.failure?] at h ⊢
      exact generate_report_refused (failure_of_eq_some_iff.1 h) hrefusal
  | listTables tenant =>
      dsimp only [perform, Answer.failure?] at h ⊢
      exact list_tables_refused (failure_of_eq_some_iff.1 h) hrefusal
  | history tenant failuresOnly limit => rfl
  | setWritable writable => cases h
  | wait ticks => cases h

/-- A call that ends with a refusal leaves the pools in their order, their statistics, the events at
the engines and the log as they were. Once a report has been executed and its rows are there, it is
not refused any more: it is rendered in the format that was accepted before, unless one of its rows
is no record or has a cell without a text. -/
theorem refusals_change_nothing (service : Service) (state : ServiceState) :
    (∀ (call : Call) (failure : Failure),
      (call.perform service state).1.failure? = some failure → failure.isRefusal = true →
        (call.perform service state).2 = state) ∧
      ∀ (tenant : String) (source : ConfigSource) (given : Json) (order : Order) (rows : List Json),
        service.orderIn tenant source given = .ok order →
          (order.execute service state).1 = .ok rows →
            checkFormat service.renderers given = .ok order.format ∧
              (service.generateReport tenant source given state).2 =
                (order.execute service state).2 ∧
              Outcome.Ends RenderingFailure
                (fun rendered ↦ rendered.format = order.format ∧ rendered.rowCount = rows.length)
                (service.generateReport tenant source given state).1 := by
  refine ⟨fun call failure h hrefusal ↦ Call.refused h hrefusal, ?_⟩
  intro tenant source given order rows horder hrows
  have haccepted := order_in_format horder
  refine ⟨haccepted, ?_⟩
  rw [generate_report_eq, horder]
  dsimp only
  rw [hrows]
  exact ⟨rfl, render_as_ends haccepted rows⟩

/-- After a report has been built, so that there are a pool, statistics, events at an engine and an
entry in the log, a report for a name that no database has is refused and leaves them as they are.
One for a name with blanks around it is rendered with its row. -/
theorem misnamed_tenant_refused :
    let row : Json := .object [("b", .integer 1)]
    let store : Tenancy.Store := { statement := fun _ ↦ { outcome := .ok [row] } }
    let service : Service := { tenants := { stores := fun _ ↦ store } }
    let state := (Call.perform service (.buildReport "south" (.ready filteredReport)) {}).2
    let call : Call := .generateReport "no name" (.ready filteredReport) (.text " CSV ")
    (state.registry.pools = [("south", ⟨1, "south"⟩)] ∧
      state.registry.usage = [("south", ⟨1, 0, some 0⟩)] ∧
      state.registry.backend.trace.length = 4 ∧ state.log.entries.length = 1) ∧
      (call.perform service state).1.failure? = some (.report (.tenant .malformed)) ∧
      (call.perform service state).2 = state ∧
        Outcome.Ends RenderingFailure (fun rendered ↦ rendered.format = .csv ∧ rendered.rowCount = 1)
          (service.generateReport " south " (.ready filteredReport) (.text " CSV ") state).1 := by
  intro row store service state call
  obtain ⟨compiled, hcompiled⟩ := filtered_report_compiles
  let statement : String := String.ofList (Query.bindNames compiled.text.toList)
  -- On a connection that is out, the store answers with the row, and the connection is returned.
  have hquery {tenant : String} (format : Format) {registry opened : Registry}
      {connection : Tenancy.Connection}
      (hacquire : Registry.acquire service.tenants tenant registry = (.ok connection, opened))
      (hout : opened.isOut connection = true) :
      Order.query service ⟨tenant, filteredReport, compiled, format⟩ registry = (.ok [row],
        Registry.release connection { opened with
          backend := (opened.backend.execute service.tenants.stores connection statement
            (Query.named compiled.parameters)).2 }) := by
    rw [Order.query, Registry.withConnection, hacquire]
    dsimp only
    rw [Registry.execute, Registry.ask_eq, if_pos hout]
    rfl
  let opened : Registry := (Registry.acquire service.tenants "south" {}).2
  have hopened : Registry.acquire service.tenants "south" {} = (.ok ⟨1, ⟨1, "south"⟩⟩, opened) := by
    rfl
  have hbuilt := hquery .json hopened (by rfl)
  let built : Registry := Registry.release ⟨1, ⟨1, "south"⟩⟩ { opened with
    backend := (opened.backend.execute service.tenants.stores ⟨1, ⟨1, "south"⟩⟩ statement
      (Query.named compiled.parameters)).2 }
  obtain ⟨hregistry, hentries⟩ :
      state.registry = built ∧ state.log.entries.length = 1 := by
    dsimp only [state, Call.perform]
    rw [build_report_eq, Service.order_eq_ok hcompiled]
    dsimp only
    rw [order_execute_eq, hbuilt]
    exact ⟨rfl, rfl⟩
  have hpools : state.registry.pools = [("south", ⟨1, "south"⟩)] ∧
      state.registry.usage = [("south", ⟨1, 0, some 0⟩)] ∧
      state.registry.backend.trace.length = 4 := by
    rw [hregistry]
    exact ⟨rfl, rfl, rfl⟩
  have hformat : checkFormat service.renderers (.text " CSV ") = .ok .csv := by
    have hstripped : Text.strip " CSV " = "CSV" := by decide +kernel
    have hlowered : Text.lowered "CSV" = "csv" := by decide +kernel
    have hnamed : Format.ofText? " CSV " = some .csv := by
      rw [Format.ofText?, hstripped, hlowered]
      decide
    rw [checkFormat, format_of_text hnamed]
  have horder (tenant : String) : service.orderIn tenant (.ready filteredReport) (.text " CSV ") =
    .ok ⟨tenant, filteredReport, compiled, .csv⟩ := Service.order_in_eq_ok hformat hcompiled tenant
  have hrefused : (call.perform service state).1.failure? =
      some (.report (.tenant .malformed)) := by
    have hacquire : Registry.acquire service.tenants "no name" state.registry =
      (.error (.report (.tenant .malformed)), state.registry) := by rfl
    dsimp only [call, Call.perform, Answer.failure?]
    rw [generate_report_eq, horder, failure_of_eq_some_iff]
    dsimp only
    rw [order_execute_eq, Order.query, Registry.withConnection, hacquire]
    rfl
  have hrows : (Order.execute service ⟨" south ", filteredReport, compiled, .csv⟩ state).1 =
      .ok [row] := by
    -- The pool is there already, so the connection is the second one of its engine.
    have hagain : Registry.acquire service.tenants " south " built =
      (.ok ⟨2, ⟨1, "south"⟩⟩, (Registry.acquire service.tenants " south " built).2) := by rfl
    rw [order_execute_eq, hregistry, hquery .csv hagain (by rfl)]
  obtain ⟨hcalls, hreports⟩ := refusals_change_nothing service state
  exact ⟨⟨hpools.1, hpools.2.1, hpools.2.2, hentries⟩, hrefused, hcalls call _ hrefused rfl,
    (hreports _ _ _ _ [row] (horder " south ") hrows).2.2⟩

end Report

end TenantReporting
