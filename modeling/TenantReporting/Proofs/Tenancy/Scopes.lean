import TenantReporting.Proofs.Tenancy.Lifecycle

/-!
# Connections that are held in scopes

A connection that is held for as long as some use of it lasts is returned whatever the outcome of
the use is. So a run in which connections are acquired in scopes only, one within another or one
after another, leaves out the connections that were out before it (`Scoped.checked_out`). Together
with the lives of connections this says how every connection is used
(`connections_follow_lifecycle`).
-/

namespace TenantReporting.Tenancy

variable {tenants : Tenants}

/-- The call acquires no connection, and it returns none but some that are held. -/
def Call.IsSparing (held : List Connection) : Call → Prop
  | acquire _ => False
  | release connection => connection ∈ held
  | _ => True

/-- A run in which connections are acquired in scopes only. Those in whose scopes it is made are
held, and it may return them itself. -/
inductive Scoped (tenants : Tenants) : List Connection → Registry → Registry → Prop where
  | start (held : List Connection) (registry : Registry) : Scoped tenants held registry registry
  | call {held : List Connection} {start registry : Registry}
      (h : Scoped tenants held start registry) (call : Call) (hcall : call.IsSparing held) :
      Scoped tenants held start (call.perform tenants registry)
  | hold {held : List Connection} {start registry opened : Registry} {connection : Connection}
      {α : Type} (h : Scoped tenants held start registry) (tenant : String)
      (use : Connection → Registry.Operation α)
      (hopened : Registry.acquire tenants tenant registry = (.ok connection, opened))
      (hwithin : Scoped tenants (connection :: held) opened (use connection opened).2) :
      Scoped tenants held start (Registry.withConnection tenants tenant use registry).2
  | refused {held : List Connection} {start registry unopened : Registry} {failure : Failure}
      {α : Type} (h : Scoped tenants held start registry) (tenant : String)
      (use : Connection → Registry.Operation α)
      (hrefused : Registry.acquire tenants tenant registry = (.error failure, unopened)) :
      Scoped tenants held start (Registry.withConnection tenants tenant use registry).2

/-- A scoped run is a run. -/
theorem Scoped.run {held : List Connection} {start finish : Registry}
    (h : Scoped tenants held start finish) : ∃ calls, Run tenants start calls finish := by
  induction h with
  | start held registry => exact ⟨[], .start registry⟩
  | call _ call _ ih =>
      obtain ⟨calls, hrun⟩ := ih
      exact ⟨_, hrun.call call⟩
  | hold _ tenant use hopened _ ih ihwithin =>
      obtain ⟨calls, hrun⟩ := ih
      obtain ⟨within, hwithin⟩ := ihwithin
      exact ⟨_, hrun.hold tenant use hopened hwithin⟩
  | refused _ tenant use hrefused ih =>
      obtain ⟨calls, hrun⟩ := ih
      exact ⟨_, hrun.refused tenant use hrefused⟩

/-- A run keeps a backend orderly. -/
theorem Run.orderly {start finish : Registry} {calls : List Call}
    (h : Run tenants start calls finish) (hstart : start.backend.Orderly) :
    finish.backend.Orderly :=
  hstart.moves h.moves

namespace Registry

variable {registry opened : Registry} {connection : Connection}

theorem acquire_connect_mem {tenant : String}
    (h : acquire tenants tenant registry = (.ok connection, opened)) :
    Event.connect connection ∈ opened.backend.trace := by
  rcases registry.acquire_opens tenants tenant with
    ⟨_, _, hresult, _⟩ | ⟨_, _, _, hresult, _, hopens⟩
  · rw [h] at hresult
    cases hresult
  · rw [h] at hresult
    cases hresult
    rw [hopens.trace]
    exact List.mem_append_right _ (List.mem_singleton_self _)

/-- A connection that is acquired was not out, and now it is, besides those that were. -/
theorem acquire_checked_out {tenant : String}
    (h : acquire tenants tenant registry = (.ok connection, opened))
    (horderly : registry.backend.Orderly) :
    connection ∉ registry.backend.checkedOut ∧
      opened.backend.checkedOut = registry.backend.checkedOut ++ [connection] := by
  rcases registry.acquire_opens tenants tenant with
    ⟨_, _, hresult, _⟩ | ⟨_, _, _, hresult, hstill, hopens⟩
  · rw [h] at hresult
    cases hresult
  · rw [h] at hresult
    cases hresult
    refine ⟨fun hmem ↦ ?_, hopens.checkedOut.trans (by rw [hstill.checkedOut])⟩
    have hle := horderly.number_le hmem
    rw [hopens.number, hstill.connections] at hle
    omega

/-- After its return a connection is not out, and the others are as before. -/
theorem release_checked_out (registry : Registry) (connection : Connection) :
    (registry.release connection).backend.checkedOut =
      registry.backend.checkedOut.filter fun other ↦ other != connection := by
  unfold release
  split
  · rfl
  next hout =>
    refine (List.filter_eq_self.2 fun other hother ↦ ?_).symm
    rw [bne_iff_ne]
    rintro rfl
    exact hout (List.contains_iff_mem.2 hother)

/-- A question that leaves the same connections out does so in every registry. -/
theorem ask_checked_out {α β : Type} {question : Backend → Except StoreFault α × Backend}
    (h : ∀ backend, (question backend).2.checkedOut = backend.checkedOut) (make : α → β)
    (registry : Registry) (connection : Connection) :
    (ask connection question make registry).2.backend.checkedOut = registry.backend.checkedOut := by
  rw [ask_registry]
  split
  · exact h registry.backend
  · rfl

/-- After the scope of a connection that could be acquired, the use of it has ended, and it has been
returned. -/
theorem with_connection_eq {α : Type} {tenant : String} (use : Connection → Operation α)
    (h : acquire tenants tenant registry = (.ok connection, opened)) :
    withConnection tenants tenant use registry =
      ((use connection opened).1, (use connection opened).2.release connection) := by
  rw [withConnection, h]

end Registry

/-- A call that spares all connections that are not held leaves them out. -/
theorem Call.IsSparing.checked_out {call : Call} {held : List Connection} (h : call.IsSparing held)
    (registry : Registry) :
    (call.perform tenants registry).backend.checkedOut.filter (fun other ↦ other ∉ held) =
      registry.backend.checkedOut.filter (fun other ↦ other ∉ held) := by
  cases call with
  | engine tenant => rw [perform, (registry.engine_still tenants tenant).checkedOut]
  | acquire tenant => exact h.elim
  | release connection =>
      rw [perform, Registry.release_checked_out, List.filter_filter]
      refine List.filter_congr fun other _ ↦ ?_
      by_cases heq : other = connection
      · subst heq
        have hheld : other ∈ held := h
        simp [hheld]
      · simp [heq]
  | execute connection text values =>
      rw [perform, Registry.execute, Registry.ask_checked_out fun _ ↦ rfl]
  | describe connection schema =>
      rw [perform, Registry.describeTables, Registry.ask_checked_out fun _ ↦ rfl]
  | dispose database =>
      rw [perform, Registry.dispose]
      dsimp only
      split <;> rfl
  | disposeAll =>
      rw [perform, Registry.disposeAll, (registry.backend.dispose_pools_still _).checkedOut]
  | wait ticks => rfl

/-- A scoped run leaves out what was out before it, but for the connections that are held. -/
theorem Scoped.spares {held : List Connection} {start finish : Registry}
    (h : Scoped tenants held start finish) (horderly : start.backend.Orderly) :
    finish.backend.checkedOut.filter (fun other ↦ other ∉ held) =
      start.backend.checkedOut.filter (fun other ↦ other ∉ held) := by
  induction h with
  | start held registry => rfl
  | call _ call hcall ih => rw [hcall.checked_out, ih horderly]
  | @hold held start registry opened connection _ h tenant use hopened hwithin ih ihwithin =>
      obtain ⟨_, hrun⟩ := h.run
      have hregistry := hrun.orderly horderly
      obtain ⟨hfresh, hout⟩ := Registry.acquire_checked_out hopened hregistry
      have hopenedRun : Run tenants registry [.acquire tenant] opened := by
        have hcall : Run tenants registry [.acquire tenant]
          ((Call.acquire tenant).perform tenants registry) := (Run.start registry).call _
        rwa [Call.perform, hopened] at hcall
      have hinner := ihwithin (hopenedRun.orderly hregistry)
      -- Sparing the connection of the scope and returning it comes to sparing the held ones.
      have hsplit (out : List Connection) :
          (out.filter fun other ↦ other != connection).filter (fun other ↦ other ∉ held) =
            out.filter fun other ↦ other ∉ connection :: held := by
        rw [List.filter_filter]
        refine List.filter_congr fun other _ ↦ ?_
        by_cases heq : other = connection <;> simp [heq]
      have hrest : registry.backend.checkedOut.filter (fun other ↦ other != connection) =
          registry.backend.checkedOut := by
        refine List.filter_eq_self.2 fun other hother ↦ ?_
        rw [bne_iff_ne]
        rintro rfl
        exact hfresh hother
      rw [Registry.with_connection_eq use hopened, Registry.release_checked_out, hsplit, hinner,
        hout, ← hsplit, List.filter_append, hrest, ← ih horderly]
      simp
  | @refused held start registry unopened failure _ h tenant use hrefused ih =>
      rcases registry.acquire_opens tenants tenant with
        ⟨_, _, hresult, hstill⟩ | ⟨_, _, _, hresult, _, _⟩
      · rw [hrefused] at hresult
        cases hresult
        rw [Registry.withConnection, hrefused]
        dsimp only
        rw [hstill.checkedOut, ih horderly]
      · rw [hrefused] at hresult
        cases hresult

/-- A scoped run leaves out exactly what was out before it. -/
theorem Scoped.checked_out {start finish : Registry} (h : Scoped tenants [] start finish)
    (horderly : start.backend.Orderly) :
    finish.backend.checkedOut = start.backend.checkedOut := by
  have hspared := h.spares horderly
  simpa using hspared

/-! ### How connections are used -/

namespace Registry

/-- After a scope the same connections are out as before, and if a connection has been acquired for
it, this one has been returned. -/
def ClosesUp {α : Type} (tenants : Tenants) (tenant : String) (use : Connection → Operation α)
    (registry : Registry) : Prop :=
  (withConnection tenants tenant use registry).2.backend.checkedOut =
      registry.backend.checkedOut ∧
    ∀ connection opened, acquire tenants tenant registry = (.ok connection, opened) →
      Event.close connection ∈ (withConnection tenants tenant use registry).2.backend.trace

/-- A connection that is not out is of no use, and returning it again does nothing. -/
theorem spent {registry : Registry} {connection : Connection}
    (h : registry.isOut connection = false) :
    (∀ text values, execute tenants connection text values registry =
        (.error .released, registry)) ∧
      (∀ schema, describeTables tenants connection schema registry =
        (.error .released, registry)) ∧
      registry.release connection = registry := by
  refine ⟨fun text values ↦ ?_, fun schema ↦ ?_, ?_⟩
  · exact ask_of_released _ _ h
  · exact ask_of_released _ _ h
  · rw [release, h]
    rfl

end Registry

section Orderly

variable {registry : Registry} (horderly : registry.backend.Orderly)
include horderly

/-- A connection that has been returned is not out. -/
theorem not_out_of_closed {connection : Connection}
    (h : Event.close connection ∈ registry.backend.trace) : registry.isOut connection = false := by
  have hmem : Event.close connection ∈ registry.backend.eventsOf connection.number :=
    List.mem_filter.2 ⟨h, by simp [Event.isAt, Event.connection?]⟩
  rcases horderly.life connection.number with hnone | ⟨other, statements, _, hlife⟩
  · rw [hnone] at hmem
    cases hmem
  · rw [hlife] at hmem
    obtain ⟨rfl, hout⟩ := close_mem_life.1 hmem
    exact hout

/-- A connection that has been checked out and is not out has been returned. -/
theorem closed_of_not_out {connection : Connection}
    (h : Event.connect connection ∈ registry.backend.trace)
    (hout : connection ∉ registry.backend.checkedOut) :
    Event.close connection ∈ registry.backend.trace := by
  have hmem : Event.connect connection ∈ registry.backend.eventsOf connection.number :=
    List.mem_filter.2 ⟨h, by simp [Event.isAt, Event.connection?]⟩
  rcases horderly.life connection.number with hnone | ⟨other, statements, _, hlife⟩
  · rw [hnone] at hmem
    cases hmem
  · rw [hlife] at hmem
    obtain rfl := eq_of_connect_mem_life hmem
    have hclose : Event.close connection ∈ registry.backend.eventsOf connection.number := by
      rw [hlife]
      exact close_mem_life.2 ⟨rfl, by simpa using hout⟩
    exact (List.mem_filter.1 hclose).1

/-- However the use of a connection ends, the connection is returned at the end of its scope. -/
theorem closed_after_scope {α : Type} {tenant : String} {use : Connection → Registry.Operation α}
    {connection : Connection} {opened : Registry} {within : List Call}
    (hopened : Registry.acquire tenants tenant registry = (.ok connection, opened))
    (hwithin : Run tenants opened within (use connection opened).2) :
    Event.close connection ∈
      (Registry.withConnection tenants tenant use registry).2.backend.trace := by
  have hrun := (Run.start registry).hold tenant use hopened hwithin
  have hreleased : Backend.Moves (use connection opened).2.backend
      (Registry.withConnection tenants tenant use registry).2.backend := by
    rw [Registry.with_connection_eq use hopened]
    exact Call.moves tenants (.release connection) _
  have hgrows := Backend.trace_grows (hwithin.moves.trans hreleased)
  refine closed_of_not_out (hrun.orderly horderly)
    (hgrows.subset (Registry.acquire_connect_mem hopened)) ?_
  rw [Registry.with_connection_eq use hopened, Registry.release_checked_out, List.mem_filter]
  simp

/-- A scope closes up if its use is a scoped run. -/
theorem closes_up {α : Type} {tenant : String} {use : Connection → Registry.Operation α}
    (hwithin : ∀ connection opened,
      Registry.acquire tenants tenant registry = (.ok connection, opened) →
        Scoped tenants [connection] opened (use connection opened).2) :
    Registry.ClosesUp tenants tenant use registry := by
  refine ⟨?_, fun connection opened hopened ↦ ?_⟩
  · rcases hacquire : Registry.acquire tenants tenant registry with ⟨failure | connection, opened⟩
    · exact ((Scoped.start [] registry).refused tenant use hacquire).checked_out horderly
    · exact ((Scoped.start [] registry).hold tenant use hacquire
        (hwithin connection opened hacquire)).checked_out horderly
  · obtain ⟨within, hrun⟩ := (hwithin connection opened hopened).run
    exact closed_after_scope horderly hopened hrun

end Orderly

/-- In every run, what happens at a connection is that it is checked out of an engine, that
statements are executed on it, and that it is returned to the same engine, at most once and then as
the last of its events. A connection that has been returned is of no use, and to return it again
does nothing. The scope of a connection ends as the use of it does, and with the return of the
connection, whatever the outcome is. Scopes whose uses acquire connections in scopes only leave out
what was out before, and so the executions of statements and the descriptions of tables in scopes
do. -/
theorem connections_follow_lifecycle {calls : List Call} {registry : Registry}
    (hrun : Run tenants {} calls registry) :
    (∀ number, registry.backend.eventsOf number = [] ∨
      ∃ (connection : Connection) (statements : _), connection.number = number ∧
        registry.backend.eventsOf number =
          connection.life statements (registry.isOut connection)) ∧
      (∀ connection, Event.close connection ∈ registry.backend.trace →
        (∀ text values, Registry.execute tenants connection text values registry =
            (.error .released, registry)) ∧
          (∀ schema, Registry.describeTables tenants connection schema registry =
            (.error .released, registry)) ∧
          registry.release connection = registry) ∧
      (∀ (α : Type) (tenant : String) (use : Connection → Registry.Operation α)
        (connection : Connection) (opened : Registry) (within : List Call),
        Registry.acquire tenants tenant registry = (.ok connection, opened) →
          Run tenants opened within (use connection opened).2 →
            (Registry.withConnection tenants tenant use registry).1 = (use connection opened).1 ∧
              Event.close connection ∈
                (Registry.withConnection tenants tenant use registry).2.backend.trace) ∧
      (∀ (α : Type) (tenant : String) (use : Connection → Registry.Operation α),
        (∀ connection opened, Registry.acquire tenants tenant registry = (.ok connection, opened) →
          Scoped tenants [connection] opened (use connection opened).2) →
            Registry.ClosesUp tenants tenant use registry) ∧
      (∀ tenant text values, Registry.ClosesUp tenants tenant
        (fun connection ↦ Registry.execute tenants connection text values) registry) ∧
      ∀ tenant schema, Registry.ClosesUp tenants tenant
        (fun connection ↦ Registry.describeTables tenants connection schema) registry := by
  have horderly : registry.backend.Orderly := hrun.orderly .empty
  refine ⟨horderly.life, fun connection hclosed ↦ ?_, ?_, ?_, ?_, ?_⟩
  · exact Registry.spent (not_out_of_closed horderly hclosed)
  · intro α tenant use connection opened within hopened hwithin
    refine ⟨?_, closed_after_scope horderly hopened hwithin⟩
    rw [Registry.with_connection_eq use hopened]
  · exact fun α tenant use hwithin ↦ closes_up horderly hwithin
  · intro tenant text values
    refine closes_up horderly fun connection opened _ ↦ ?_
    exact (Scoped.start _ opened).call (.execute connection text values) trivial
  · intro tenant schema
    refine closes_up horderly fun connection opened _ ↦ ?_
    exact (Scoped.start _ opened).call (.describe connection schema) trivial

/-- A connection is used and returned after its engine has given way to that of another database. -/
theorem evicted_connection_lifecycle :
    let tenants : Tenants := { maxPools := 1 }
    let connection : Connection := ⟨1, ⟨1, "south"⟩⟩
    let registry := performAll tenants
      [.acquire "south", .engine "north", .execute connection "SELECT 1" [], .release connection,
        .release connection] {}
    registry.backend.eventsOf 1 = connection.life [.statement "SELECT 1" []] false ∧
      registry.release connection = registry ∧
      Registry.ClosesUp tenants "south"
        (fun connection ↦ Registry.execute tenants connection "SELECT 1" []) registry := by
  intro tenants connection registry
  have hrun : Run tenants {} [.acquire "south", .engine "north",
      .execute connection "SELECT 1" [], .release connection, .release connection] registry :=
    .perform_all tenants _ {}
  obtain ⟨_, hspent, _, _, hexecutions, _⟩ := connections_follow_lifecycle hrun
  have hevents : registry.backend.eventsOf 1 =
      connection.life [.statement "SELECT 1" []] false := by
    rfl
  have hclosed : Event.close connection ∈ registry.backend.eventsOf 1 := by
    rw [hevents]
    exact close_mem_life.2 ⟨rfl, rfl⟩
  obtain ⟨_, _, hreleased⟩ := hspent connection (List.mem_filter.1 hclosed).1
  exact ⟨hevents, hreleased, hexecutions "south" "SELECT 1" []⟩

end TenantReporting.Tenancy
