import Mathlib.Data.List.Basic
import TenantReporting.Proofs.Tenancy.Questions

/-!
# Statements that reach an engine

Which statements have been executed on engines, read off the events of the backend. Setting up,
connecting, evicting and closing send none. A connection that has just been checked out is out, so
the query text executed on it reaches its engine as one statement, and a scoped use of a connection
sends what is executed in its scope and nothing else (`with_connection_statements`).
-/

namespace TenantReporting.Tenancy

/-- The statement and the values that an event sends to an engine, if it sends one. -/
def Event.statement? : Event → Option (String × List (String × Json))
  | .execute _ text binds => some (text, binds)
  | _ => none

namespace Backend

variable (stores : Stores) (backend : Backend)

/-- The statements that have reached an engine, each with its values. -/
def statements (backend : Backend) : List (String × List (String × Json)) :=
  backend.trace.filterMap Event.statement?

/-- An event adds the statement that it sends. -/
theorem record_statements (event : Event) :
    (backend.record event).statements = backend.statements ++ event.statement?.toList := by
  rw [statements, record, List.filterMap_append, ← statements]
  cases event <;> rfl

/-- An event that sends nothing leaves the statements as they are. -/
theorem record_silent {event : Event} (h : event.statement? = none) :
    (backend.record event).statements = backend.statements := by
  rw [record_statements, h, Option.toList_none, List.append_nil]

theorem set_up_statements (database : String) :
    (backend.setUp stores database).2.statements = backend.statements := by
  rw [setUp]
  split
  · rfl
  · exact record_silent _ rfl

theorem connect_statements (engine : Engine) :
    (backend.connect stores engine).2.statements = backend.statements := by
  unfold connect
  dsimp only
  split
  · rfl
  · split
    · rfl
    · exact record_silent _ rfl

theorem dispose_statements (engine : Engine) :
    (backend.dispose engine).statements = backend.statements :=
  record_silent backend rfl

theorem close_statements (connection : Connection) :
    (backend.close connection).statements = backend.statements :=
  record_silent _ rfl

/-- Executing a statement sends it, whatever the answer is. -/
theorem execute_statements (connection : Connection) (text : String)
    (binds : List (String × Json)) :
    (backend.execute stores connection text binds).2.statements =
      backend.statements ++ [(text, binds)] :=
  record_statements _ _

/-- A connection that is handed out is out. -/
theorem connect_checked_out {engine : Engine} {connection : Connection} {later : Backend}
    (h : backend.connect stores engine = (.ok connection, later)) :
    connection ∈ later.checkedOut := by
  unfold connect at h
  dsimp only at h
  split at h
  · cases h
  · split at h
    · cases h
    · cases h
      exact List.mem_append_right _ (List.mem_singleton_self _)

end Backend

namespace Registry

variable (tenants : Tenants) (registry : Registry)

/-- The statements that have reached an engine. -/
def statements (registry : Registry) : List (String × List (String × Json)) :=
  registry.backend.statements

theorem evict_statements (maxPools : Int) :
    (evict maxPools registry).2.statements = registry.statements := by
  rw [evict]
  split
  · rfl
  · show (List.foldl _ registry.backend _).statements = registry.backend.statements
    generalize registry.pools.take _ = evicted
    generalize registry.backend = backend
    induction evicted generalizing backend with
    | nil => rfl
    | cons pool evicted ih =>
        rw [List.foldl_cons, ih, Backend.dispose_statements]

theorem engine_of_statements (database : String) :
    (engineOf tenants database registry).2.statements = registry.statements := by
  have hsetup := registry.backend.set_up_statements tenants.stores database
  rw [engineOf]
  split
  · rfl
  split
  next fault backend hresult =>
    rw [hresult] at hsetup
    exact hsetup
  next engine backend hresult =>
    rw [hresult] at hsetup
    have hevict := evict_statements ({ registry with backend }.register engine) tenants.maxPools
    split
    next failure later hevicted =>
      rw [hevicted] at hevict
      exact hevict.trans hsetup
    next later hevicted =>
      rw [hevicted] at hevict
      exact hevict.trans hsetup

theorem engine_statements (tenant : String) :
    (engine tenants tenant registry).2.statements = registry.statements := by
  rw [engine]
  split
  · rfl
  · exact engine_of_statements tenants registry _

theorem acquire_statements (tenant : String) :
    (acquire tenants tenant registry).2.statements = registry.statements := by
  rw [acquire]
  split
  · rfl
  next database _ =>
    have hengine := engine_statements tenants registry database
    split
    next failure later hresult =>
      rw [hresult] at hengine
      exact hengine
    next engine later hresult =>
      rw [hresult] at hengine
      have hconnect := later.backend.connect_statements tenants.stores engine
      split
      next fault backend hconnected =>
        rw [hconnected] at hconnect
        exact hconnect.trans hengine
      next connection backend hconnected =>
        rw [hconnected] at hconnect
        exact hconnect.trans hengine

/-- A connection that is acquired is out. -/
theorem acquire_is_out {tenant : String} {connection : Connection} {later : Registry}
    (h : acquire tenants tenant registry = (.ok connection, later)) :
    later.isOut connection = true := by
  rw [acquire] at h
  split at h
  · cases h
  split at h
  · cases h
  next engine middle _ =>
    split at h
    · cases h
    next out backend hconnected =>
      cases h
      have hmem := middle.backend.connect_checked_out tenants.stores hconnected
      exact List.contains_iff_mem.2 hmem

theorem release_statements (connection : Connection) :
    (registry.release connection).statements = registry.statements := by
  rw [release]
  split
  · exact Backend.close_statements _ _
  · rfl

/-- Query text executed on a connection that is out reaches its engine as one statement. -/
theorem execute_statements {connection : Connection} (h : registry.isOut connection = true)
    (text : String) (values : List Json) :
    (execute tenants connection text values registry).2.statements =
      registry.statements ++
        [(String.ofList (Query.bindNames text.toList), Query.named values)] := by
  rw [execute, ask_registry, if_pos h]
  exact registry.backend.execute_statements tenants.stores connection _ _

/-- Executing query text in the scope of a connection sends one statement if the connection is
acquired, and none otherwise. -/
theorem with_connection_statements (tenant text : String) (values : List Json) :
    (withConnection tenants tenant (fun connection ↦ execute tenants connection text values)
        registry).2.statements =
      if (acquire tenants tenant registry).1.isOk then
        registry.statements ++ [(String.ofList (Query.bindNames text.toList), Query.named values)]
      else registry.statements := by
  have hacquire := acquire_statements tenants registry tenant
  rw [withConnection]
  split
  next failure later hresult =>
    rw [hresult] at hacquire ⊢
    exact hacquire
  next connection later hresult =>
    -- Only what happens in the scope sends anything, and there the connection is out.
    have hout := acquire_is_out tenants registry hresult
    have hexecute := execute_statements tenants later hout text values
    rw [hresult] at hacquire ⊢
    dsimp only
    rw [release_statements, hexecute, hacquire]
    rfl

end Registry

end TenantReporting.Tenancy
