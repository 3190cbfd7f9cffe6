import TenantReporting.Proofs.Tenancy.Runs
import TenantReporting.Proofs.Tenancy.Statements

/-!
# How the faults of stores surface

A store may raise a fault while a connection to it is opened, and while it answers a question that
it is asked on a connection (`Raises`). Either way a reporting error tells of the fault, with one
gap: the layer above the driver may itself fail while a connection is opened, and nobody reports
that (`Escapes`). So this is the only fault of a known kind that leaves the registry as it is once
there is an engine (`Registry.surfaces_fault`).
-/

namespace TenantReporting

/-- The fault is of a known kind: of the driver, of the layer above it, or a wait for a connection
that took too long. -/
def StoreFault.IsKnown (fault : StoreFault) : Prop :=
  fault.kind ≠ .other

namespace Tenancy

open Query (databaseName)

/-- When a store may raise a fault. -/
inductive Stage where
  /-- A connection to it is opened. -/
  | connecting
  /-- It is asked a question on a connection. -/
  | answering
deriving DecidableEq, Repr

/-- The fault passes those who report faults: the layer above the driver has failed while a
connection was opened. -/
def Escapes (stage : Stage) (fault : StoreFault) : Prop :=
  stage = .connecting ∧ fault.kind = .layer

/-- The error tells of a fault: that the database is unavailable if no connection could be opened,
and otherwise what the store said. -/
def TellsOf (error : ReportError) (stage : Stage) (fault : StoreFault) : Prop :=
  match stage with
  | .connecting => error.kind = .connectionUnavailable
  | .answering => error = .execution fault.message

/-- The failure is what a fault at a stage surfaces as: an error that tells of it, or the fault
itself if it escapes. -/
structure Surfaces (stage : Stage) (fault : StoreFault) (failure : Failure) : Prop where
  reported : ¬ Escapes stage fault → ∃ error, failure = .report error ∧ TellsOf error stage fault
  escaped : Escapes stage fault → failure = .store fault

/-! ### Questions -/

/-- What the store of a connection can be asked. -/
inductive Question where
  /-- To execute query text with positional placeholders. -/
  | statement (text : String) (values : List Json)
  /-- To list the tables of a schema. -/
  | tables (schema : String)

/-- The fault that has been raised instead of an answer. -/
def faultOf? {α : Type} : Except StoreFault α → Option StoreFault
  | .error fault => some fault
  | .ok _ => none

/-- The fault that the store of a connection raises instead of answering a question. -/
def Question.fault? (tenants : Tenants) (connection : Connection) (registry : Registry) :
    Question → Option StoreFault
  | statement text values =>
    faultOf? (registry.backend.execute tenants.stores connection
      (String.ofList (Query.bindNames text.toList)) (Query.named values)).1
  | tables schema => faultOf? (registry.backend.inspect tenants.stores connection schema).1

/-- The engine of a tenant is there, but the store raises a fault when a connection is opened. -/
def Registry.FailsToConnect (tenants : Tenants) (tenant : String) (fault : StoreFault)
    (registry : Registry) : Prop :=
  ∃ engine middle, Registry.engine tenants tenant registry = (.ok engine, middle) ∧
    (middle.backend.connect tenants.stores engine).1 = .error fault

/-- A store raises a fault when a tenant's database is asked a question on a connection that is
acquired for it. The engine is there before anything is raised. -/
inductive Raises (tenants : Tenants) (tenant : String) (question : Question) (registry : Registry) :
    Stage → StoreFault → Prop where
  | connecting {fault : StoreFault} (h : registry.FailsToConnect tenants tenant fault) :
      Raises tenants tenant question registry .connecting fault
  | answering {connection : Connection} {opened : Registry} {fault : StoreFault}
      (hacquire : Registry.acquire tenants tenant registry = (.ok connection, opened))
      (hfault : question.fault? tenants connection opened = some fault) :
      Raises tenants tenant question registry .answering fault

/-- The use of a connection asks its store a question. It fails if the store raises a fault, as
faults in answering are reported, and if the connection has been returned before. -/
structure Asks {α : Type} (tenants : Tenants) (use : Connection → Registry.Operation α)
    (question : Question) : Prop where
  fault : ∀ {connection registry fault}, registry.isOut connection = true →
    question.fault? tenants connection registry = some fault →
      (use connection registry).1 = .error (Registry.executionFailure fault)
  answer : ∀ {connection registry}, registry.isOut connection = true →
    question.fault? tenants connection registry = none →
      ∃ value, (use connection registry).1 = .ok value
  released : ∀ {connection registry}, registry.isOut connection = false →
    (use connection registry).1 = .error .released

section Failures

variable {fault : StoreFault}

/-- A fault in connecting surfaces as it is reported. -/
theorem connect_failure_surfaces (hknown : fault.IsKnown) (database : String) :
    Surfaces .connecting fault (Registry.connectFailure database fault) := by
  unfold Registry.connectFailure
  cases hkind : fault.kind with
  | timeout =>
      exact ⟨fun _ ↦ ⟨.exhausted database, rfl, rfl⟩, fun hescapes ↦ by cases hkind ▸ hescapes.2⟩
  | driver =>
      exact ⟨fun _ ↦ ⟨.unreachable database fault.message, rfl, rfl⟩,
        fun hescapes ↦ by cases hkind ▸ hescapes.2⟩
  | layer => exact ⟨fun hstays ↦ absurd ⟨rfl, hkind⟩ hstays, fun _ ↦ rfl⟩
  | other => exact absurd hkind hknown

/-- A known fault in answering is reported in the words of the store. -/
theorem execution_failure_eq (hknown : fault.IsKnown) :
    Registry.executionFailure fault = .report (.execution fault.message) := by
  unfold Registry.executionFailure
  cases hkind : fault.kind with
  | timeout | driver | layer => rfl
  | other => exact absurd hkind hknown

/-- A fault in answering never escapes. -/
theorem execution_failure_surfaces (hknown : fault.IsKnown) :
    Surfaces .answering fault (Registry.executionFailure fault) where
  reported _ := ⟨.execution fault.message, execution_failure_eq hknown, rfl⟩
  escaped hescapes := by cases hescapes.1

end Failures

namespace Registry

variable {tenants : Tenants} {registry : Registry} {tenant : String} {fault : StoreFault}

/-! ### Connections -/

/-- A fault in connecting is what acquiring a connection fails with. -/
theorem FailsToConnect.acquire (h : registry.FailsToConnect tenants tenant fault) :
    ∃ database later, Registry.acquire tenants tenant registry =
      (.error (connectFailure database fault), later) := by
  obtain ⟨engine, middle, hengine, hfault⟩ := h
  obtain ⟨backend, hconnect⟩ : ∃ backend,
      middle.backend.connect tenants.stores engine = (.error fault, backend) :=
    ⟨_, Prod.ext hfault rfl⟩
  cases hname : databaseName tenant with
  | error defect =>
      simp only [Registry.engine, hname] at hengine
      cases hengine
  | ok database =>
      refine ⟨database, { middle with backend }, ?_⟩
      simp only [Registry.acquire, hname, engine_of_name tenants registry hname, hengine, hconnect]

/-- A known fault leaves the registry as it is only where it has been raised instead of an engine,
or where it escapes. -/
theorem acquire_escaped (hknown : fault.IsKnown)
    (h : (acquire tenants tenant registry).1 = .error (.store fault)) :
    (engine tenants tenant registry).1 = .error (.store fault) ∨
      registry.FailsToConnect tenants tenant fault ∧ Escapes .connecting fault := by
  obtain ⟨later, hacquire⟩ : ∃ later,
      acquire tenants tenant registry = (.error (.store fault), later) :=
    ⟨_, Prod.ext h rfl⟩
  rcases acquire_failed_cases hacquire with
    hengine | ⟨database, engine, middle, raised, backend, -, hopened, hconnect, heq, -⟩
  · exact .inl (by rw [hengine])
  · have hfails : registry.FailsToConnect tenants tenant raised :=
      ⟨engine, middle, hopened, by rw [hconnect]⟩
    unfold connectFailure at heq
    cases hkind : raised.kind with
    | timeout | driver =>
        rw [hkind] at heq
        cases heq
    | layer =>
        rw [hkind] at heq
        cases heq
        exact .inr ⟨hfails, rfl, hkind⟩
    | other =>
        rw [hkind] at heq
        cases heq
        exact absurd hkind hknown

/-! ### Questions on a connection -/

/-- Putting a question to the store of a connection asks it, whatever is made of the answer. -/
theorem ask_asks {α β : Type} {question : Question}
    {put : Connection → Backend → Except StoreFault α × Backend}
    (h : ∀ connection registry,
      question.fault? tenants connection registry = faultOf? (put connection registry.backend).1)
    (make : α → β) :
    Asks tenants (fun connection ↦ ask connection (put connection) make) question where
  fault {connection registry fault} hout hfault := by
    rw [h] at hfault
    cases hanswer : (put connection registry.backend).1 with
    | error raised =>
        rw [hanswer] at hfault
        cases hfault
        exact ask_of_fault hout hanswer
    | ok answer =>
        rw [hanswer] at hfault
        cases hfault
  answer {connection registry} hout hfault := by
    rw [h] at hfault
    cases hanswer : (put connection registry.backend).1 with
    | error raised =>
        rw [hanswer] at hfault
        cases hfault
    | ok answer => exact ⟨make answer, ask_of_answer hout hanswer⟩
  released {connection registry} hout := by rw [ask_of_released _ _ hout]

theorem execute_asks (tenants : Tenants) (text : String) (values : List Json) :
    Asks tenants (fun connection ↦ execute tenants connection text values)
      (.statement text values) :=
  ask_asks (fun _ _ ↦ rfl) id

theorem describe_asks (tenants : Tenants) (schema : String) :
    Asks tenants (fun connection ↦ describeTables tenants connection schema) (.tables schema) :=
  ask_asks (fun _ _ ↦ rfl) TableListing.describeAll

section Uses

variable {α : Type} {use : Connection → Operation α} {question : Question}

/-- A known fault never leaves a use that asks a question as it is. -/
theorem use_reports_fault (hasks : Asks tenants use question) (hknown : fault.IsKnown)
    (connection : Connection) : (use connection registry).1 ≠ .error (.store fault) := by
  intro hescaped
  cases hout : registry.isOut connection with
  | false =>
      rw [hasks.released hout] at hescaped
      cases hescaped
  | true =>
      cases hfault : question.fault? tenants connection registry with
      | some raised =>
          rw [hasks.fault hout hfault] at hescaped
          have heq := Except.error.inj hescaped
          unfold executionFailure at heq
          split at heq
          · cases heq
          · cases heq
          · cases heq
          next hkind =>
            cases heq
            exact hknown hkind
      | none =>
          obtain ⟨value, hvalue⟩ := hasks.answer hout hfault
          rw [hvalue] at hescaped
          cases hescaped

/-- A known fault leaves a scope in which a question is asked only where it has been raised instead
of an engine, or where it escapes. -/
theorem scope_escaped (hasks : Asks tenants use question) (hknown : fault.IsKnown)
    (h : (withConnection tenants tenant use registry).1 = .error (.store fault)) :
    (engine tenants tenant registry).1 = .error (.store fault) ∨
      registry.FailsToConnect tenants tenant fault ∧ Escapes .connecting fault := by
  refine acquire_escaped hknown ?_
  rcases hacquire : acquire tenants tenant registry with ⟨failure | connection, opened⟩
  · rw [with_connection_of_refused hacquire] at h
    rw [Except.error.inj h]
  · rw [with_connection_of_acquired hacquire] at h
    exact absurd h (use_reports_fault hasks hknown connection)

end Uses

end Registry

/-- A fault that is raised in a scope in which a question is asked is what the scope fails with, as
it surfaces. -/
theorem Raises.surfaces {α : Type} {tenants : Tenants} {registry : Registry} {tenant : String}
    {question : Question} {use : Connection → Registry.Operation α} {stage : Stage}
    {fault : StoreFault} (h : Raises tenants tenant question registry stage fault)
    (hasks : Asks tenants use question) (hknown : fault.IsKnown) :
    ∃ failure, (Registry.withConnection tenants tenant use registry).1 = .error failure ∧
      Surfaces stage fault failure := by
  cases h with
  | connecting hconnecting =>
      obtain ⟨database, later, hacquire⟩ := hconnecting.acquire
      refine ⟨_, ?_, connect_failure_surfaces hknown database⟩
      rw [Registry.with_connection_of_refused hacquire]
  | answering hacquire hfault =>
      have hout := Registry.acquire_is_out tenants registry hacquire
      refine ⟨_, ?_, execution_failure_surfaces hknown⟩
      rw [Registry.with_connection_of_acquired hacquire, hasks.fault hout hfault]

/-! ### All calls of the registry -/

/-- What comes of a fault in the calls of a registry. -/
structure Registry.SurfacesFault (tenants : Tenants) (fault : StoreFault) (registry : Registry) :
    Prop where
  /-- Acquiring a connection fails with what a fault in connecting surfaces as. -/
  connecting : ∀ tenant, registry.FailsToConnect tenants tenant fault →
    ∃ failure, (Registry.acquire tenants tenant registry).1 = .error failure ∧
      Surfaces .connecting fault failure
  /-- Executing query text and listing tables fail in the words of the store. -/
  answering : ∀ connection, registry.isOut connection = true →
    (∀ text values,
      (Question.statement text values).fault? tenants connection registry = some fault →
        (Registry.execute tenants connection text values registry).1 =
          .error (.report (.execution fault.message))) ∧
    ∀ schema, (Question.tables schema).fault? tenants connection registry = some fault →
      (Registry.describeTables tenants connection schema registry).1 =
        .error (.report (.execution fault.message))
  /-- They never pass the fault on as it is. -/
  reported : ∀ connection,
    (∀ text values, (Registry.execute tenants connection text values registry).1 ≠
      .error (.store fault)) ∧
    ∀ schema, (Registry.describeTables tenants connection schema registry).1 ≠
      .error (.store fault)
  /-- Once there is an engine, the fault leaves the registry, or the scope of a connection, as it is
  only if it escapes. -/
  escaped : ∀ tenant engine, (Registry.engine tenants tenant registry).1 = .ok engine →
    (Registry.acquire tenants tenant registry).1 = .error (.store fault) ∨
      (∃ text values, (Registry.withConnection tenants tenant (fun connection ↦
        Registry.execute tenants connection text values) registry).1 = .error (.store fault)) ∨
      (∃ schema, (Registry.withConnection tenants tenant (fun connection ↦
        Registry.describeTables tenants connection schema) registry).1 = .error (.store fault)) →
    registry.FailsToConnect tenants tenant fault ∧ Escapes .connecting fault

/-- Faults of a known kind surface in the calls of every registry. -/
theorem Registry.surfaces_fault (tenants : Tenants) (registry : Registry) {fault : StoreFault}
    (hknown : fault.IsKnown) : registry.SurfacesFault tenants fault where
  connecting tenant hfails := by
    obtain ⟨database, later, hacquire⟩ := hfails.acquire
    exact ⟨_, by rw [hacquire], connect_failure_surfaces hknown database⟩
  answering connection hout := by
    rw [← execution_failure_eq hknown]
    exact ⟨fun text values hfault ↦ (execute_asks tenants text values).fault hout hfault,
      fun schema hfault ↦ (describe_asks tenants schema).fault hout hfault⟩
  reported connection :=
    ⟨fun text values ↦ use_reports_fault (execute_asks tenants text values) hknown connection,
      fun schema ↦ use_reports_fault (describe_asks tenants schema) hknown connection⟩
  escaped tenant engine hengine hescaped := by
    have hfailed : (Registry.engine tenants tenant registry).1 ≠ .error (.store fault) := by
      rw [hengine]
      intro heq
      cases heq
    rcases hescaped with hescaped | ⟨text, values, hescaped⟩ | ⟨schema, hescaped⟩
    · exact (acquire_escaped hknown hescaped).resolve_left hfailed
    · exact (scope_escaped (execute_asks tenants text values) hknown hescaped).resolve_left hfailed
    · exact (scope_escaped (describe_asks tenants schema) hknown hescaped).resolve_left hfailed

end Tenancy

end TenantReporting
