import TenantReporting.Query.Binding
import TenantReporting.Tenancy.Backend

/-!
# The registry of tenant pools

The registry keeps one engine for each tenant database in use and statistics about it. It holds a
bounded number of pools: when a new one would exceed the bound, those that have gone unused for
longest are closed. Whoever works on a database holds one of its connections for as long as needed.

Every operation takes the state and returns its outcome together with the next state, also when it
fails.
-/

namespace TenantReporting.Tenancy

open Query (databaseName)

/-- How the pool of a database has been used since its engine was created. -/
structure Usage where
  acquisitions : Nat
  createdAt : Int
  lastUsed : Option Int
deriving DecidableEq, Repr

/-- The tenants that are served: their stores, and how many pools are kept. -/
structure Tenants where
  stores : Stores := fun _ ↦ {}
  maxPools : Int := 50

/-- The pools in the order of their last use, the least recent one first, the statistics about them,
and the backend. -/
structure Registry where
  pools : List (String × Engine) := []
  usage : List (String × Usage) := []
  backend : Backend := {}

/-- What the registry tells about a pool. -/
structure PoolStatistics where
  database : String
  acquisitions : Nat
  createdAt : Option Int
  lastUsed : Option Int
  checkedOut : Option Nat
deriving DecidableEq, Repr

namespace Registry

/-- An operation on the registry. -/
abbrev Operation (α : Type) := Registry → Except Failure α × Registry

/-! ### Pools -/

/-- The entries of other databases. -/
def without {α : Type} (database : String) (entries : List (String × α)) : List (String × α) :=
  entries.filter fun entry ↦ entry.1 != database

/-- Closes the pools that have gone unused for longest until at most `maxPools` are left. A negative
bound cannot be met: then every pool leaves the registry before that shows. -/
def evict (maxPools : Int) : Operation Unit := fun registry ↦
  if maxPools < 0 then (.error .emptyRegistry, { registry with pools := [] })
  else
    let excess := registry.pools.length - maxPools.toNat
    let evicted := registry.pools.take excess
    (.ok (),
      { pools := registry.pools.drop excess
        usage := registry.usage.filter fun entry ↦ !(evicted.map (·.1)).contains entry.1
        backend := evicted.foldl (fun backend pool ↦ backend.dispose pool.2) registry.backend })

/-- Registers a new engine as the most recently used one. -/
def register (engine : Engine) (registry : Registry) : Registry :=
  { registry with
    pools := registry.pools ++ [(engine.database, engine)]
    usage := without engine.database registry.usage
      ++ [(engine.database, ⟨0, registry.backend.clock, none⟩)] }

/-- The engine of a database, which becomes the most recently used one. It is set up if there is
none, and then others may have to make room. -/
def engineOf (tenants : Tenants) (database : String) : Operation Engine := fun registry ↦
  match registry.pools.lookup database with
  | some engine =>
    (.ok engine, { registry with pools := without database registry.pools ++ [(database, engine)] })
  | none =>
    match registry.backend.setUp tenants.stores database with
    | (.error fault, backend) => (.error (.store fault), { registry with backend })
    | (.ok engine, backend) =>
      match evict tenants.maxPools ({ registry with backend }.register engine) with
      | (.error failure, registry) => (.error failure, registry)
      | (.ok (), registry) => (.ok engine, registry)

/-- The engine of a tenant's database. -/
def engine (tenants : Tenants) (tenant : String) : Operation Engine := fun registry ↦
  match databaseName tenant with
  | .error defect => (.error (.report (.tenant defect)), registry)
  | .ok database => engineOf tenants database registry

/-! ### Connections -/

/-- How a fault in connecting to a database is reported. -/
def connectFailure (database : String) (fault : StoreFault) : Failure :=
  match fault.kind with
  | .timeout => .report (.exhausted database)
  | .driver => .report (.unreachable database fault.message)
  | .layer => .store fault
  | .other => .store fault

/-- How a fault in executing a statement or inspecting a schema is reported. -/
def executionFailure (fault : StoreFault) : Failure :=
  match fault.kind with
  | .timeout => .report (.execution fault.message)
  | .driver => .report (.execution fault.message)
  | .layer => .report (.execution fault.message)
  | .other => .store fault

/-- Counts an acquisition for a database that has statistics. -/
def countUse (database : String) (registry : Registry) : Registry :=
  { registry with
    usage := registry.usage.map fun entry ↦
      if entry.1 == database then
        (entry.1, { entry.2 with
          acquisitions := entry.2.acquisitions + 1
          lastUsed := some registry.backend.clock })
      else entry }

/-- Checks out a connection to a tenant's database. -/
def acquire (tenants : Tenants) (tenant : String) : Operation Connection := fun registry ↦
  match databaseName tenant with
  | .error defect => (.error (.report (.tenant defect)), registry)
  | .ok database =>
    match engine tenants database registry with
    | (.error failure, registry) => (.error failure, registry)
    | (.ok engine, registry) =>
      match registry.backend.connect tenants.stores engine with
      | (.error fault, backend) =>
        (.error (connectFailure database fault), { registry with backend })
      | (.ok connection, backend) =>
        (.ok connection, countUse database { registry with backend })

/-- The connection is out, so that it can be used. -/
def isOut (registry : Registry) (connection : Connection) : Bool :=
  registry.backend.checkedOut.contains connection

/-- Returns a connection. Returning it again does nothing. -/
def release (connection : Connection) (registry : Registry) : Registry :=
  if registry.isOut connection then
    { registry with backend := registry.backend.close connection }
  else registry

/-- Puts a question to the store of a connection that is out, and makes something of the answer. -/
def ask {α β : Type} (connection : Connection) (question : Backend → Except StoreFault α × Backend)
    (make : α → β) : Operation β := fun registry ↦
  if registry.isOut connection then
    match question registry.backend with
    | (.error fault, backend) => (.error (executionFailure fault), { registry with backend })
    | (.ok answer, backend) => (.ok (make answer), { registry with backend })
  else (.error .released, registry)

/-- Executes query text with positional placeholders on a connection. -/
def execute (tenants : Tenants) (connection : Connection) (text : String) (values : List Json) :
    Operation (List Json) :=
  let statement := String.ofList (Query.bindNames text.toList)
  ask connection (Backend.execute tenants.stores connection statement (Query.named values)) id

/-- The tables of a schema of the connection's database. -/
def describeTables (tenants : Tenants) (connection : Connection) (schema : String) :
    Operation (List TableDescription) :=
  ask connection (Backend.inspect tenants.stores connection schema) TableListing.describeAll

/-- Holds a connection to a tenant's database for as long as `use` lasts, and returns it whatever
the outcome. -/
def withConnection {α : Type} (tenants : Tenants) (tenant : String)
    (use : Connection → Operation α) : Operation α := fun registry ↦
  match acquire tenants tenant registry with
  | (.error failure, registry) => (.error failure, registry)
  | (.ok connection, registry) =>
    match use connection registry with
    | (outcome, registry) => (outcome, registry.release connection)

/-! ### Statistics and closing -/

/-- How many pools there are. -/
def size (registry : Registry) : Nat :=
  registry.pools.length

/-- The statistics of one pool. -/
def statisticsOf (tenants : Tenants) (registry : Registry) (pool : String × Engine) :
    PoolStatistics :=
  let usage? := registry.usage.lookup pool.1
  let counts := (tenants.stores pool.2.database).countsConnections
  { database := pool.1
    acquisitions := (usage?.map (·.acquisitions)).getD 0
    createdAt := usage?.map (·.createdAt)
    lastUsed := usage?.bind (·.lastUsed)
    checkedOut := if counts then some (registry.backend.outCount pool.2) else none }

/-- The statistics of all pools, or of the pool of one database, in the order of their last use. -/
def statistics (tenants : Tenants) (database? : Option String) (registry : Registry) :
    List PoolStatistics :=
  let wanted (pool : String × Engine) : Bool :=
    match database? with
    | some database => pool.1 == database
    | none => true
  (registry.pools.filter wanted).map (registry.statisticsOf tenants)

/-- There is a pool for the database. -/
def hasPool (database : String) (registry : Registry) : Bool :=
  (registry.pools.lookup database).isSome

/-- Closes and forgets the pool of a database, and tells whether there was one. -/
def dispose (database : String) (registry : Registry) : Bool × Registry :=
  let forgotten :=
    { registry with
      pools := without database registry.pools
      usage := without database registry.usage }
  match registry.pools.lookup database with
  | some engine => (true, { forgotten with backend := forgotten.backend.dispose engine })
  | none => (false, forgotten)

/-- Closes and forgets all pools. -/
def disposeAll (registry : Registry) : Registry :=
  { pools := []
    usage := []
    backend :=
      registry.pools.foldl (fun backend pool ↦ backend.dispose pool.2) registry.backend }

/-- Moves the clock, possibly backwards. -/
def tick (ticks : Int) (registry : Registry) : Registry :=
  { registry with backend := { registry.backend with clock := registry.backend.clock + ticks } }

end Registry

end TenantReporting.Tenancy
