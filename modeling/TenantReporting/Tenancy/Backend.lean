import TenantReporting.Tenancy.Store

/-!
# The backend of the tenant pools

The backend holds what exists outside the registry of pools: the clock, how many requests every
store has answered, the connections that are out, and the events at the engines in the order in
which they happened.
-/

namespace TenantReporting.Tenancy

/-- An engine, which holds the connection pool of one database. Engines are numbered in the order of
their creation. -/
structure Engine where
  serial : Nat
  database : String
deriving DecidableEq, Repr

/-- A connection checked out of an engine's pool. -/
structure Connection where
  number : Nat
  engine : Engine
deriving DecidableEq, Repr

/-- Something that happens at an engine. -/
inductive Event where
  | create (engine : Engine)
  | connect (connection : Connection)
  | execute (connection : Connection) (text : String) (binds : List (String × Json))
  | inspect (connection : Connection) (schema : String)
  | close (connection : Connection)
  | dispose (engine : Engine)
deriving Repr

/-- How many requests of each kind a store has answered. -/
structure Progress where
  setUps : Nat := 0
  connects : Nat := 0
  statements : Nat := 0
  inspections : Nat := 0
deriving DecidableEq, Repr

/-- The state of the backend. -/
structure Backend where
  /-- The time in ticks. -/
  clock : Int := 0
  /-- How many engines have been created. -/
  engines : Nat := 0
  /-- How many connections have been checked out. -/
  connections : Nat := 0
  /-- The requests answered by the store of each database. -/
  progress : String → Progress := fun _ ↦ {}
  /-- The connections that are out. -/
  checkedOut : List Connection := []
  /-- Everything that has happened at the engines. -/
  trace : List Event := []

/-- The stores of all databases. -/
abbrev Stores := String → Store

namespace Backend

/-- The backend after an event. -/
def record (backend : Backend) (event : Event) : Backend :=
  { backend with trace := backend.trace ++ [event] }

/-- The backend after the requests answered by one store have changed. -/
def advance (backend : Backend) (database : String) (change : Progress → Progress) : Backend :=
  { backend with
    progress := fun name ↦
      if name = database then change (backend.progress name) else backend.progress name }

/-- How many connections of an engine are out. -/
def outCount (backend : Backend) (engine : Engine) : Nat :=
  backend.checkedOut.countP fun connection ↦ connection.engine == engine

/-- Sets up an engine for a database. -/
def setUp (stores : Stores) (database : String) (backend : Backend) :
    Except StoreFault Engine × Backend :=
  let attempt := (backend.progress database).setUps
  let backend := backend.advance database fun progress ↦
    { progress with setUps := progress.setUps + 1 }
  match (stores database).setUp attempt with
  | some fault => (.error fault, backend)
  | none =>
    let engine : Engine := ⟨backend.engines + 1, database⟩
    (.ok engine, { backend with engines := backend.engines + 1 }.record (.create engine))

/-- Checks a connection out of an engine's pool. Where the store has no fault of its own, the
attempt fails only if all connections of the engine are out. -/
def connect (stores : Stores) (engine : Engine) (backend : Backend) :
    Except StoreFault Connection × Backend :=
  let store := stores engine.database
  let attempt := (backend.progress engine.database).connects
  let backend := backend.advance engine.database fun progress ↦
    { progress with connects := progress.connects + 1 }
  match store.connect attempt with
  | some fault => (.error fault, backend)
  | none =>
    if store.capacity ≤ backend.outCount engine then
      (.error ⟨.timeout, "QueuePool limit reached"⟩, backend)
    else
      let connection : Connection := ⟨backend.connections + 1, engine⟩
      (.ok connection,
        { backend with
          connections := backend.connections + 1
          checkedOut := backend.checkedOut ++ [connection] }.record (.connect connection))

/-- Executes a statement on a connection. -/
def execute (stores : Stores) (connection : Connection) (text : String)
    (binds : List (String × Json)) (backend : Backend) :
    Except StoreFault (List Json) × Backend :=
  let database := connection.engine.database
  let answer := (stores database).statement (backend.progress database).statements
  let backend := backend.advance database fun progress ↦
    { progress with statements := progress.statements + 1 }
  (answer.outcome,
    { backend with clock := backend.clock + answer.ticks }.record
      (.execute connection text binds))

/-- Inspects a schema on a connection. -/
def inspect (stores : Stores) (connection : Connection) (schema : String) (backend : Backend) :
    Except StoreFault (List TableListing) × Backend :=
  let database := connection.engine.database
  let found := (stores database).inspection (backend.progress database).inspections schema
  let backend := backend.advance database fun progress ↦
    { progress with inspections := progress.inspections + 1 }
  (found, backend.record (.inspect connection schema))

/-- Returns a connection to its pool. -/
def close (connection : Connection) (backend : Backend) : Backend :=
  { backend with
    checkedOut := backend.checkedOut.filter fun other ↦ other != connection }.record
      (.close connection)

/-- Closes the pool of an engine. Connections that are out stay usable. -/
def dispose (engine : Engine) (backend : Backend) : Backend :=
  backend.record (.dispose engine)

end Backend

end TenantReporting.Tenancy
