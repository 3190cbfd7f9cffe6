import TenantReporting.Proofs.Query.DatabaseName
import TenantReporting.Proofs.Tenancy.Questions

/-!
# Runs of the registry

A run makes calls of the registry one after another, in any order, and each of them may fail. A
connection may also be held for as long as some use of it lasts, which is a run itself; such a scope
acquires the connection, makes the calls of its use and releases the connection (`Run.finish_eq`).

What the calls of a run did is kept as a history: which engines were set up, for which databases an
engine was handed out, which connections were acquired and released, each with its time. What can
happen to a registry within a call is said once, by `Change`; whatever every change keeps holds
after every run (`Run.invariant`).
-/

namespace TenantReporting.Tenancy

open Query (databaseName)

/-! ### What the backend has seen -/

namespace Event

/-- The engine that an event creates. -/
def created? : Event → Option Engine
  | create engine => some engine
  | _ => none

/-- The engine that an event disposes of. -/
def disposed? : Event → Option Engine
  | dispose engine => some engine
  | _ => none

end Event

namespace Backend

variable (stores : Stores) (backend : Backend)

/-- The engines that have been created, in order. -/
def created (backend : Backend) : List Engine :=
  backend.trace.filterMap Event.created?

/-- The engines that have been disposed of, in order, each as often as it has been. -/
def disposed (backend : Backend) : List Engine :=
  backend.trace.filterMap Event.disposed?

/-- How often an engine has been asked for by the name of a database. -/
def setUps (backend : Backend) (database : String) : Nat :=
  (backend.progress database).setUps

/-- No engine is created, none is disposed of, and the same connections are out. -/
structure Quiet (backend later : Backend) : Prop where
  created : later.created = backend.created
  disposed : later.disposed = backend.disposed
  engines : later.engines = backend.engines
  checkedOut : later.checkedOut = backend.checkedOut

/-- One engine is created, with the next number, and nothing else happens. -/
structure Creates (backend : Backend) (engine : Engine) (later : Backend) : Prop where
  created : later.created = backend.created ++ [engine]
  disposed : later.disposed = backend.disposed
  serial : engine.serial = backend.engines + 1
  engines : later.engines = backend.engines + 1
  checkedOut : later.checkedOut = backend.checkedOut
  clock : later.clock = backend.clock

/-- One connection is checked out, and nothing else happens. -/
structure Connects (backend : Backend) (connection : Connection) (later : Backend) : Prop where
  created : later.created = backend.created
  disposed : later.disposed = backend.disposed
  engines : later.engines = backend.engines
  checkedOut : later.checkedOut = backend.checkedOut ++ [connection]
  clock : later.clock = backend.clock

theorem created_record (event : Event) :
    (backend.record event).created = backend.created ++ event.created?.toList := by
  rw [created, record, List.filterMap_append, ← created]
  cases event <;> rfl

theorem disposed_record (event : Event) :
    (backend.record event).disposed = backend.disposed ++ event.disposed?.toList := by
  rw [disposed, record, List.filterMap_append, ← disposed]
  cases event <;> rfl

/-- Setting up an engine fails quietly or creates the engine of the database. -/
theorem set_up_cases (database : String) :
    (∃ fault later, backend.setUp stores database = (.error fault, later) ∧
        backend.Quiet later ∧ later.clock = backend.clock) ∨
      ∃ engine later, backend.setUp stores database = (.ok engine, later) ∧
        engine.database = database ∧ backend.Creates engine later := by
  unfold setUp
  dsimp only
  split
  next fault _ =>
    exact .inl ⟨fault, _, rfl, ⟨rfl, rfl, rfl, rfl⟩, rfl⟩
  next =>
    refine .inr ⟨_, _, rfl, rfl, ?_⟩
    exact {
      created := created_record _ _
      disposed := (disposed_record _ _).trans (List.append_nil _)
      serial := rfl
      engines := rfl
      checkedOut := rfl
      clock := rfl }

/-- Asking for an engine counts for the name that it is asked for by, and for no other. -/
theorem set_up_set_ups (database name : String) :
    (backend.setUp stores database).2.setUps name =
      backend.setUps name + if name = database then 1 else 0 := by
  unfold setUp
  dsimp only
  by_cases h : name = database
  · split <;> simp [setUps, advance, record, h]
  · split <;> simp [setUps, advance, record, h]

/-- Connecting fails quietly or checks out a connection of the engine. -/
theorem connect_cases (engine : Engine) :
    (∃ fault later, backend.connect stores engine = (.error fault, later) ∧
        backend.Quiet later ∧ later.clock = backend.clock) ∨
      ∃ connection later, backend.connect stores engine = (.ok connection, later) ∧
        connection.engine = engine ∧ backend.Connects connection later := by
  unfold connect
  dsimp only
  split
  next fault _ =>
    exact .inl ⟨fault, _, rfl, ⟨rfl, rfl, rfl, rfl⟩, rfl⟩
  next =>
    split
    · exact .inl ⟨_, _, rfl, ⟨rfl, rfl, rfl, rfl⟩, rfl⟩
    · refine .inr ⟨_, _, rfl, rfl, ?_⟩
      exact {
        created := (created_record _ _).trans (List.append_nil _)
        disposed := (disposed_record _ _).trans (List.append_nil _)
        engines := rfl
        checkedOut := rfl
        clock := rfl }

theorem connect_set_ups (engine : Engine) (name : String) :
    (backend.connect stores engine).2.setUps name = backend.setUps name := by
  have hadvance : (backend.advance engine.database fun progress ↦
      { progress with connects := progress.connects + 1 }).setUps name = backend.setUps name := by
    unfold setUps advance
    dsimp only
    split <;> rfl
  unfold connect
  dsimp only
  split
  · exact hadvance
  · split <;> exact hadvance

theorem execute_quiet (connection : Connection) (text : String) (binds : List (String × Json)) :
    backend.Quiet (backend.execute stores connection text binds).2 where
  created := (created_record _ _).trans (List.append_nil _)
  disposed := (disposed_record _ _).trans (List.append_nil _)
  engines := rfl
  checkedOut := rfl

theorem inspect_quiet (connection : Connection) (schema : String) :
    backend.Quiet (backend.inspect stores connection schema).2 where
  created := (created_record _ _).trans (List.append_nil _)
  disposed := (disposed_record _ _).trans (List.append_nil _)
  engines := rfl
  checkedOut := rfl

theorem execute_set_ups (connection : Connection) (text : String) (binds : List (String × Json))
    (name : String) :
    (backend.execute stores connection text binds).2.setUps name = backend.setUps name := by
  unfold execute setUps advance record
  dsimp only
  split <;> rfl

theorem inspect_set_ups (connection : Connection) (schema name : String) :
    (backend.inspect stores connection schema).2.setUps name = backend.setUps name := by
  unfold inspect setUps advance record
  dsimp only
  split <;> rfl

/-- Disposing of the engines of some pools adds these events and changes nothing else. -/
theorem dispose_pools_eq (pools : List (String × Engine)) :
    pools.foldl (fun backend pool ↦ backend.dispose pool.2) backend =
      { backend with trace := backend.trace ++ pools.map fun pool ↦ .dispose pool.2 } := by
  induction pools generalizing backend with
  | nil => simp
  | cons pool pools ih =>
      rw [List.foldl_cons, ih]
      simp [dispose, record]

/-- The engines of the pools that are disposed of come last. -/
theorem disposed_pools (pools : List (String × Engine)) :
    (pools.foldl (fun backend pool ↦ backend.dispose pool.2) backend).disposed =
      backend.disposed ++ pools.map Prod.snd := by
  rw [dispose_pools_eq]
  unfold disposed
  simp [List.filterMap_map, Function.comp_def, Event.disposed?]

/-- Disposing of engines creates none. -/
theorem created_dispose_pools (pools : List (String × Engine)) :
    (pools.foldl (fun backend pool ↦ backend.dispose pool.2) backend).created =
      backend.created := by
  rw [dispose_pools_eq]
  unfold created
  simp [List.filterMap_map, Function.comp_def, Event.created?]

end Backend

/-! ### Calls and runs -/

/-- A call of the registry, or a wait between calls. -/
inductive Call where
  | engine (tenant : String)
  | acquire (tenant : String)
  | release (connection : Connection)
  | execute (connection : Connection) (text : String) (values : List Json)
  | describe (connection : Connection) (schema : String)
  | dispose (database : String)
  | disposeAll
  | wait (ticks : Int)

/-- The registry after a call, whatever the outcome of the call is. -/
def Call.perform (tenants : Tenants) (call : Call) (registry : Registry) : Registry :=
  match call with
  | engine tenant => (Registry.engine tenants tenant registry).2
  | acquire tenant => (Registry.acquire tenants tenant registry).2
  | release connection => registry.release connection
  | execute connection text values => (Registry.execute tenants connection text values registry).2
  | describe connection schema => (Registry.describeTables tenants connection schema registry).2
  | dispose database => (registry.dispose database).2
  | disposeAll => registry.disposeAll
  | wait ticks => registry.tick ticks

/-- The registry after some calls in a row. -/
def performAll (tenants : Tenants) (calls : List Call) (registry : Registry) : Registry :=
  calls.foldl (fun registry call ↦ call.perform tenants registry) registry

/-- A run that begins with one registry and ends with another, and the calls made in it. Holding a
connection makes the calls of its scope; if no connection can be acquired, there is no scope. -/
inductive Run (tenants : Tenants) : Registry → List Call → Registry → Prop where
  | start (registry : Registry) : Run tenants registry [] registry
  | call {start registry : Registry} {calls : List Call} (h : Run tenants start calls registry)
      (call : Call) : Run tenants start (calls ++ [call]) (call.perform tenants registry)
  | hold {start registry opened : Registry} {calls within : List Call} {connection : Connection}
      {α : Type} (h : Run tenants start calls registry) (tenant : String)
      (use : Connection → Registry.Operation α)
      (hopened : Registry.acquire tenants tenant registry = (.ok connection, opened))
      (hwithin : Run tenants opened within (use connection opened).2) :
      Run tenants start (calls ++ .acquire tenant :: within ++ [.release connection])
        (Registry.withConnection tenants tenant use registry).2
  | refused {start registry unopened : Registry} {calls : List Call} {failure : Failure} {α : Type}
      (h : Run tenants start calls registry) (tenant : String)
      (use : Connection → Registry.Operation α)
      (hrefused : Registry.acquire tenants tenant registry = (.error failure, unopened)) :
      Run tenants start (calls ++ [.acquire tenant])
        (Registry.withConnection tenants tenant use registry).2

theorem perform_all_append (tenants : Tenants) (first second : List Call) (registry : Registry) :
    performAll tenants (first ++ second) registry =
      performAll tenants second (performAll tenants first registry) :=
  List.foldl_append

/-- A run ends where its calls lead, also if they are made in the scope of a connection. -/
theorem Run.finish_eq {tenants : Tenants} {start finish : Registry} {calls : List Call}
    (h : Run tenants start calls finish) : finish = performAll tenants calls start := by
  induction h with
  | start registry => rfl
  | call h call ih => rw [perform_all_append, ← ih]; rfl
  | hold h tenant use hopened hwithin ih ihwithin =>
      rw [List.append_assoc, perform_all_append, ← ih, List.cons_append]
      have hacquired : Call.perform tenants (.acquire tenant) _ = _ := congrArg Prod.snd hopened
      show _ = performAll tenants (_ ++ [_]) (Call.perform tenants (.acquire tenant) _)
      rw [hacquired, perform_all_append, ← ihwithin, Registry.withConnection, hopened]
      rfl
  | refused h tenant use hrefused ih =>
      rw [perform_all_append, ← ih, Registry.withConnection, hrefused]
      exact (congrArg Prod.snd hrefused).symm

/-- Calls in a row are a run. -/
theorem Run.perform_all (tenants : Tenants) (calls : List Call) (start : Registry) :
    Run tenants start calls (performAll tenants calls start) := by
  induction calls using List.reverseRecOn with
  | nil => exact .start start
  | append_singleton calls call ih =>
      rw [perform_all_append]
      exact ih.call call

/-! ### Histories -/

/-- Something that a call did. -/
inductive Deed where
  | create (engine : Engine)
  | serve (database : String)
  | acquire (database : String) (connection : Connection)
  | release (connection : Connection)
  | dispose (database : String)
  | disposeAll
deriving DecidableEq, Repr

/-- Something that a call did, and when. -/
structure Entry where
  time : Int
  deed : Deed
deriving DecidableEq, Repr

/-- The database whose engine is handed out when a tenant's engine is asked for. -/
def served? (tenants : Tenants) (tenant : String) (registry : Registry) : Option String :=
  match databaseName tenant, (Registry.engine tenants tenant registry).1 with
  | .ok database, .ok _ => some database
  | _, _ => none

/-- What is done when a tenant's engine is asked for: the engines that are created, and the database
that is served. -/
def engineDeeds (tenants : Tenants) (tenant : String) (registry : Registry) : List Deed :=
  let later := (Registry.engine tenants tenant registry).2
  (later.backend.created.drop registry.backend.created.length).map .create
    ++ (served? tenants tenant registry).toList.map .serve

/-- The connection that is acquired for a tenant, under the database that the tenant stands for. -/
def acquireDeeds (tenants : Tenants) (tenant : String) (registry : Registry) : List Deed :=
  match databaseName tenant, (Registry.acquire tenants tenant registry).1 with
  | .ok database, .ok connection => [.acquire database connection]
  | _, _ => []

/-- What a call does. Acquiring a connection asks for the tenant's engine first. -/
def Call.deeds (tenants : Tenants) (call : Call) (registry : Registry) : List Deed :=
  match call with
  | engine tenant => engineDeeds tenants tenant registry
  | acquire tenant => engineDeeds tenants tenant registry ++ acquireDeeds tenants tenant registry
  | release connection => [.release connection]
  | dispose database => [.dispose database]
  | disposeAll => [.disposeAll]
  | execute _ _ _ => []
  | describe _ _ => []
  | wait _ => []

/-- Deeds that are done at the time that the registry shows. -/
def Registry.stamp (registry : Registry) (deeds : List Deed) : List Entry :=
  deeds.map (Entry.mk registry.backend.clock)

/-- What some calls in a row do, from the first to the last. -/
def history (tenants : Tenants) : List Call → Registry → List Entry
  | [], _ => []
  | call :: calls, registry =>
    registry.stamp (call.deeds tenants registry)
      ++ history tenants calls (call.perform tenants registry)

/-! ### Changes -/

/-- What can happen to a registry within a call, and the deeds that it amounts to. -/
inductive Change (tenants : Tenants) (registry : Registry) : List Deed → Registry → Prop where
  /-- Something happens outside the registry that creates, disposes of and checks out nothing. -/
  | quiet {backend : Backend} (h : registry.backend.Quiet backend) :
      Change tenants registry [] { registry with backend }
  /-- The engine of a pool is handed out, which becomes the most recently used one. -/
  | touch {database : String} {engine : Engine}
      (hpool : registry.pools.lookup database = some engine) :
      Change tenants registry [.serve database]
        { registry with pools := Registry.without database registry.pools ++ [(database, engine)] }
  /-- An engine is created and handed out, and its pool is registered, which may evict others. -/
  | establish {engine : Engine} {backend : Backend}
      (hname : databaseName engine.database = .ok engine.database)
      (hnew : registry.pools.lookup engine.database = none)
      (hcreates : registry.backend.Creates engine backend) :
      Change tenants registry [.create engine, .serve engine.database]
        (Registry.evict tenants.maxPools ({ registry with backend }.register engine)).2
  /-- A connection is checked out and counted for its database. -/
  | grant {database : String} {connection : Connection} {backend : Backend}
      (hconnects : registry.backend.Connects connection backend) :
      Change tenants registry [.acquire database connection]
        (Registry.countUse database { registry with backend })
  | release (connection : Connection) :
      Change tenants registry [.release connection] (registry.release connection)
  | dispose (database : String) :
      Change tenants registry [.dispose database] (registry.dispose database).2
  | disposeAll : Change tenants registry [.disposeAll] registry.disposeAll

/-- Changes one after another, and the entries that their deeds make in the history. -/
inductive Changes (tenants : Tenants) : Registry → List Entry → Registry → Prop where
  | none (registry : Registry) : Changes tenants registry [] registry
  | next {registry middle later : Registry} {deeds : List Deed} {entries : List Entry}
      (h : Change tenants registry deeds middle) (hrest : Changes tenants middle entries later) :
      Changes tenants registry (registry.stamp deeds ++ entries) later

namespace Changes

variable {tenants : Tenants} {registry middle later : Registry}

/-- A single change. -/
theorem single {deeds : List Deed} (h : Change tenants registry deeds later) :
    Changes tenants registry (registry.stamp deeds) later := by
  have hnext := next h (none later)
  rwa [List.append_nil] at hnext

theorem append {first second : List Entry} (h : Changes tenants registry first middle)
    (hsecond : Changes tenants middle second later) :
    Changes tenants registry (first ++ second) later := by
  induction h with
  | none registry => exact hsecond
  | next h _ ih =>
      rw [List.append_assoc]
      exact next h (ih hsecond)

/-- What every change keeps is kept by changes in a row. -/
theorem invariant {property : List Entry → Registry → Prop}
    (hstep : ∀ {before registry deeds later}, property before registry →
      Change tenants registry deeds later → property (before ++ registry.stamp deeds) later)
    {entries before : List Entry} (h : Changes tenants registry entries later)
    (hbefore : property before registry) : property (before ++ entries) later := by
  induction h generalizing before with
  | none registry =>
      rw [List.append_nil]
      exact hbefore
  | next h _ ih =>
      rw [← List.append_assoc]
      exact ih (hstep hbefore h)

end Changes

namespace Registry

variable (tenants : Tenants) (registry : Registry)

/-- Asking for an engine by the name that has been read from a tenant's identification is the same
as asking for it by the identification. -/
theorem engine_of_name {tenant database : String} (h : databaseName tenant = .ok database) :
    engine tenants database registry = engine tenants tenant registry := by
  simp only [engine, h, Query.database_name_fixed h]

theorem engine_eq {tenant database : String} (h : databaseName tenant = .ok database) :
    engine tenants tenant registry = engineOf tenants database registry := by
  simp only [engine, h]

/-- Acquiring a connection asks for the engine first. Then connecting fails quietly, or a connection
of the engine is counted for its database. -/
theorem acquire_cases {tenant database : String} (h : databaseName tenant = .ok database) :
    (∃ failure middle, engine tenants tenant registry = (.error failure, middle) ∧
        acquire tenants tenant registry = (.error failure, middle)) ∨
      ∃ engine middle, Registry.engine tenants tenant registry = (.ok engine, middle) ∧
        ((∃ fault backend, middle.backend.Quiet backend ∧ backend.clock = middle.backend.clock ∧
            acquire tenants tenant registry =
              (.error (connectFailure database fault), { middle with backend })) ∨
          ∃ connection backend, connection.engine = engine ∧
            middle.backend.Connects connection backend ∧
            acquire tenants tenant registry =
              (.ok connection, countUse database { middle with backend })) := by
  unfold acquire
  simp only [h, engine_of_name tenants registry h]
  rcases hengine : Registry.engine tenants tenant registry with ⟨failure | engine, middle⟩
  · exact .inl ⟨failure, middle, rfl, rfl⟩
  · refine .inr ⟨engine, middle, rfl, ?_⟩
    rcases middle.backend.connect_cases tenants.stores engine with
      ⟨fault, backend, hconnect, hquiet, hclock⟩ | ⟨connection, backend, hconnect, hname, hconnects⟩
    · exact .inl ⟨fault, backend, hquiet, hclock, by simp only [hconnect]⟩
    · exact .inr ⟨connection, backend, hname, hconnects, by simp only [hconnect]⟩

variable {tenants registry} {tenant : String} {failure : Failure} {later : Registry}

/-- Acquiring a connection fails with the engine, or with a fault in connecting after it. -/
theorem acquire_failed_cases (h : acquire tenants tenant registry = (.error failure, later)) :
    engine tenants tenant registry = (.error failure, later) ∨
      ∃ database engine middle fault backend, databaseName tenant = .ok database ∧
        Registry.engine tenants tenant registry = (.ok engine, middle) ∧
        middle.backend.connect tenants.stores engine = (.error fault, backend) ∧
        failure = connectFailure database fault ∧ later = { middle with backend } := by
  unfold acquire at h
  split at h
  next defect hname =>
    cases h
    simp only [engine, hname, true_or]
  next database hname =>
    rw [engine_of_name tenants registry hname] at h
    split at h
    next hfailed =>
      cases h
      exact .inl hfailed
    next engine middle hopened =>
      split at h
      next fault backend hconnect =>
        cases h
        exact .inr ⟨database, engine, middle, fault, backend, hname, hopened, hconnect, rfl, rfl⟩
      next => cases h

section Scopes

variable {α : Type} {use : Connection → Operation α}

/-- A scope fails if it cannot begin. -/
theorem with_connection_of_refused
    (h : acquire tenants tenant registry = (.error failure, later)) :
    withConnection tenants tenant use registry = (.error failure, later) := by
  rw [withConnection, h]

/-- A scope ends as the use of its connection does, and returns the connection. -/
theorem with_connection_of_acquired {connection : Connection}
    (h : acquire tenants tenant registry = (.ok connection, later)) :
    withConnection tenants tenant use registry =
      ((use connection later).1, (use connection later).2.release connection) := by
  rw [withConnection, h]

end Scopes

variable (registry)

/-- Eviction under a bound that can be met keeps the pools that were used last. -/
theorem evict_eq {maxPools : Int} (h : 0 ≤ maxPools) :
    evict maxPools registry = (.ok (), (evict maxPools registry).2) := by
  have hbound : ¬ maxPools < 0 := by omega
  simp only [evict, if_neg hbound]

/-- Asking for an engine by the name of a database goes one of three ways: its pool is there, no
engine can be set up, or a new one is. -/
theorem engine_of_cases (hpools : 0 ≤ tenants.maxPools) (database : String) :
    (∃ engine, registry.pools.lookup database = some engine ∧
        engineOf tenants database registry = (.ok engine,
          { registry with pools := without database registry.pools ++ [(database, engine)] })) ∨
      (registry.pools.lookup database = none ∧
        ∃ fault backend, registry.backend.Quiet backend ∧
          backend.clock = registry.backend.clock ∧
          engineOf tenants database registry = (.error (.store fault), { registry with backend })) ∨
      (registry.pools.lookup database = none ∧
        ∃ engine backend, engine.database = database ∧ registry.backend.Creates engine backend ∧
          engineOf tenants database registry = (.ok engine,
            (evict tenants.maxPools ({ registry with backend }.register engine)).2)) := by
  unfold engineOf
  cases hlookup : registry.pools.lookup database with
  | some engine => exact .inl ⟨engine, rfl, rfl⟩
  | none =>
      refine .inr ?_
      rcases registry.backend.set_up_cases tenants.stores database with
        ⟨fault, backend, hset, hquiet, hclock⟩ | ⟨engine, backend, hset, hname, hcreates⟩
      · exact .inl ⟨rfl, fault, backend, hquiet, hclock, by simp only [hset]⟩
      · refine .inr ⟨rfl, engine, backend, hname, hcreates, ?_⟩
        simp only [hset]
        rw [evict_eq _ hpools]

/-- No time passes while pools are evicted. -/
theorem evict_clock (maxPools : Int) :
    (evict maxPools registry).2.backend.clock = registry.backend.clock := by
  unfold evict
  split
  · rfl
  · simp only [Backend.dispose_pools_eq]

/-- No engine is created while pools are evicted. -/
theorem evict_created (maxPools : Int) :
    (evict maxPools registry).2.backend.created = registry.backend.created := by
  unfold evict
  split
  · rfl
  · exact Backend.created_dispose_pools _ _

/-- Asking for a tenant's engine makes the changes that its deeds say, and takes no time. -/
theorem engine_changes (hpools : 0 ≤ tenants.maxPools) (tenant : String) :
    Changes tenants registry (registry.stamp (engineDeeds tenants tenant registry))
        (engine tenants tenant registry).2 ∧
      (engine tenants tenant registry).2.backend.clock = registry.backend.clock := by
  cases hname : databaseName tenant with
  | error defect =>
      have hengine : engine tenants tenant registry =
          (.error (.report (.tenant defect)), registry) := by simp only [engine, hname]
      have hdeeds : engineDeeds tenants tenant registry = [] := by
        simp [engineDeeds, served?, hengine, hname]
      rw [hdeeds, hengine]
      exact ⟨.none registry, rfl⟩
  | ok database =>
      have hengine := engine_eq tenants registry hname
      rcases registry.engine_of_cases hpools database with
        ⟨engine, hpool, hresult⟩ | ⟨_, fault, backend, hquiet, hclock, hresult⟩ |
          ⟨hnew, engine, backend, rfl, hcreates, hresult⟩
      · have hdeeds : engineDeeds tenants tenant registry = [.serve database] := by
          simp [engineDeeds, served?, hengine, hname, hresult]
        rw [hdeeds, hengine, hresult]
        exact ⟨.single (.touch hpool), rfl⟩
      · have hdeeds : engineDeeds tenants tenant registry = [] := by
          simp [engineDeeds, served?, hengine, hname, hresult, hquiet.created]
        rw [hdeeds, hengine, hresult]
        exact ⟨.single (.quiet hquiet), hclock⟩
      · have hcreated : (evict tenants.maxPools
            ({ registry with backend }.register engine)).2.backend.created =
              registry.backend.created ++ [engine] := by
          rw [evict_created]
          exact hcreates.created
        have hdeeds : engineDeeds tenants tenant registry =
            [.create engine, .serve engine.database] := by
          simp [engineDeeds, served?, hengine, hname, hresult, hcreated]
        rw [hdeeds, hengine, hresult]
        refine ⟨.single (.establish (Query.database_name_fixed hname) hnew hcreates), ?_⟩
        rw [evict_clock]
        exact hcreates.clock

/-- Acquiring a connection makes the changes that its deeds say. -/
theorem acquire_changes (hpools : 0 ≤ tenants.maxPools) (tenant : String) :
    Changes tenants registry (registry.stamp (Call.deeds tenants (.acquire tenant) registry))
      (acquire tenants tenant registry).2 := by
  obtain ⟨hengine, hclock⟩ := registry.engine_changes hpools tenant
  rw [Call.deeds, stamp, List.map_append]
  cases hname : databaseName tenant with
  | error defect =>
      have hsame : (acquire tenants tenant registry).2 = (engine tenants tenant registry).2 := by
        simp only [acquire, engine, hname]
      rw [hsame, acquireDeeds, hname]
      exact hengine.append (.none _)
  | ok database =>
      rcases registry.acquire_cases tenants hname with
        ⟨failure, middle, hfailed, hresult⟩ | ⟨_, middle, hopened,
          ⟨fault, backend, hquiet, _, hresult⟩ | ⟨connection, backend, _, hconnects, hresult⟩⟩
      · rw [acquireDeeds, hname, hresult]
        rw [hfailed] at hengine
        exact hengine.append (.none _)
      · rw [acquireDeeds, hname, hresult]
        rw [hopened] at hengine
        exact hengine.append (.single (.quiet hquiet))
      · rw [acquireDeeds, hname, hresult]
        rw [hopened] at hengine hclock
        have hgrant : Changes tenants middle (middle.stamp [.acquire database connection])
            (countUse database { middle with backend }) := .single (.grant hconnects)
        rw [stamp, hclock] at hgrant
        exact hengine.append hgrant

end Registry

/-! ### What calls and runs come to -/

variable {tenants : Tenants}

/-- Every call makes the changes that its deeds say. -/
theorem Call.changes (hpools : 0 ≤ tenants.maxPools) (call : Call) (registry : Registry) :
    Changes tenants registry (registry.stamp (call.deeds tenants registry))
      (call.perform tenants registry) := by
  cases call with
  | engine tenant => exact (registry.engine_changes hpools tenant).1
  | acquire tenant => exact registry.acquire_changes hpools tenant
  | release connection => exact .single (.release connection)
  | execute connection text values =>
      -- Whatever the answer is, the backend has changed quietly.
      rw [perform, Registry.execute, Registry.ask_registry]
      split
      · exact .single (.quiet (registry.backend.execute_quiet tenants.stores connection _ _))
      · exact .none registry
  | describe connection schema =>
      rw [perform, Registry.describeTables, Registry.ask_registry]
      split
      · exact .single (.quiet (registry.backend.inspect_quiet tenants.stores connection schema))
      · exact .none registry
  | dispose database => exact .single (.dispose database)
  | disposeAll => exact .single .disposeAll
  | wait ticks => exact .single (.quiet ⟨rfl, rfl, rfl, rfl⟩)

/-- Calls in a row make the changes that their history says. -/
theorem perform_all_changes (hpools : 0 ≤ tenants.maxPools) (calls : List Call)
    (registry : Registry) :
    Changes tenants registry (history tenants calls registry)
      (performAll tenants calls registry) := by
  induction calls generalizing registry with
  | nil => exact .none registry
  | cons call calls ih => exact (call.changes hpools registry).append (ih _)

/-- What holds at the beginning and is kept by every change holds after every run, together with the
history of the run. -/
theorem Run.invariant (property : List Entry → Registry → Prop) (hpools : 0 ≤ tenants.maxPools)
    (hstep : ∀ {before registry deeds later}, property before registry →
      Change tenants registry deeds later → property (before ++ registry.stamp deeds) later)
    {start finish : Registry} {calls : List Call} (h : Run tenants start calls finish)
    (hstart : property [] start) : property (history tenants calls start) finish := by
  rw [h.finish_eq]
  exact (perform_all_changes hpools calls start).invariant hstep hstart

end TenantReporting.Tenancy
