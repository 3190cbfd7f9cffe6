import Mathlib.Logic.Relation
import TenantReporting.Proofs.Tenancy.Runs

/-!
# The life of a connection

A connection is checked out of an engine, statements are executed and schemas are inspected on it,
and it is returned to the same engine, after which nothing happens at it. What can happen to the
connections of a backend at once is said by `Backend.Move`; every call of the registry comes to such
moves, under any bound on the number of pools, and every move keeps the events of each connection
those of a life (`Backend.Orderly.move`). A scope returns its connection whatever its use does, so
scopes leave out exactly what was out before them (`Scoped.checked_out`,
`connections_follow_lifecycle`).
-/

namespace TenantReporting.Tenancy

open Query (databaseName)

/-! ### Lives -/

/-- The connection at which an event happens, if it happens at one. -/
def Event.connection? : Event → Option Connection
  | connect connection => some connection
  | execute connection _ _ => some connection
  | inspect connection _ => some connection
  | close connection => some connection
  | create _ => none
  | dispose _ => none

/-- The event happens at the connection with a number. -/
def Event.isAt (number : Nat) (event : Event) : Bool :=
  event.connection?.any fun connection ↦ connection.number == number

/-- What a connection is used for: a statement is executed with some binds, or a schema is
inspected. -/
inductive Work where
  | statement (text : String) (binds : List (String × Json))
  | inspection (schema : String)

/-- The event of work on a connection. -/
def Work.event (connection : Connection) : Work → Event
  | statement text binds => .execute connection text binds
  | inspection schema => .inspect connection schema

/-- The events of a connection on which some work has been done: those of a connection that is out,
or with its return. -/
def Connection.life (connection : Connection) (works : List Work) (out : Bool) : List Event :=
  .connect connection :: works.map (·.event connection) ++ if out then [] else [.close connection]

section Lives

variable {connection other : Connection} {work : Work} {works : List Work} {out : Bool}

theorem work_connection : (work.event connection).connection? = some connection := by
  cases work <;> rfl

theorem work_ne_connect : work.event connection ≠ .connect other := by
  cases work <;> rintro ⟨⟩

theorem work_ne_close : work.event connection ≠ .close other := by
  cases work <;> rintro ⟨⟩

/-- Only one connection lives a life. -/
theorem eq_of_connect_mem_life (h : Event.connect other ∈ connection.life works out) :
    other = connection := by
  cases out <;> simpa [Connection.life, work_ne_connect] using h

/-- Only a connection that is not out has been returned. -/
theorem close_mem_life :
    Event.close other ∈ connection.life works out ↔ other = connection ∧ out = false := by
  cases out <;> simp [Connection.life, work_ne_close]

theorem life_work :
    connection.life works true ++ [work.event connection] =
      connection.life (works ++ [work]) true := by
  simp [Connection.life]

theorem life_close :
    connection.life works true ++ [.close connection] = connection.life works false := by
  simp [Connection.life]

end Lives

/-! ### Moves -/

namespace Backend

/-- The events of the connection with a number, in order. -/
def eventsOf (number : Nat) (backend : Backend) : List Event :=
  backend.trace.filter (Event.isAt number)

/-- Nothing happens at a connection, and the same connections are out. -/
structure Still (backend later : Backend) : Prop where
  trace : ∃ events, later.trace = backend.trace ++ events ∧
    ∀ event ∈ events, event.connection? = none
  checkedOut : later.checkedOut = backend.checkedOut
  connections : later.connections = backend.connections

/-- A connection with the next number is checked out. -/
structure Opens (backend : Backend) (connection : Connection) (later : Backend) : Prop where
  number : connection.number = backend.connections + 1
  trace : later.trace = backend.trace ++ [.connect connection]
  checkedOut : later.checkedOut = backend.checkedOut ++ [connection]
  connections : later.connections = backend.connections + 1

/-- What can happen to the connections of a backend at once. -/
inductive Move (backend : Backend) : Backend → Prop where
  | still {later : Backend} (h : backend.Still later) : Move backend later
  | connect {later : Backend} {connection : Connection} (h : backend.Opens connection later) :
      Move backend later
  /-- Work is done on a connection that is out. -/
  | work {later : Backend} {connection : Connection} {work : Work}
      (hmem : connection ∈ backend.checkedOut)
      (htrace : later.trace = backend.trace ++ [work.event connection])
      (hout : later.checkedOut = backend.checkedOut)
      (hconnections : later.connections = backend.connections) : Move backend later
  /-- A connection that is out is returned. -/
  | close {connection : Connection} (hmem : connection ∈ backend.checkedOut) :
      Move backend (backend.close connection)

/-- Some moves one after another. -/
abbrev Moves : Backend → Backend → Prop :=
  Relation.ReflTransGen Move

/-- The events of each connection are those of a life. Numbers that have not been given out have no
events, the connections that are out have not been returned, and all others have. -/
structure Orderly (backend : Backend) : Prop where
  unborn : ∀ number, backend.connections < number → backend.eventsOf number = []
  out : ∀ connection ∈ backend.checkedOut, ∃ works,
    backend.eventsOf connection.number = connection.life works true
  ended : ∀ number, backend.eventsOf number = [] ∨
    (∃ connection ∈ backend.checkedOut, connection.number = number) ∨
    ∃ (connection : Connection) (works : _), connection.number = number ∧
      backend.eventsOf number = connection.life works false

variable {backend later : Backend}

/-- Nothing that has happened is undone. -/
theorem Move.trace_grows (h : Move backend later) : backend.trace <+: later.trace := by
  cases h with
  | still h =>
      obtain ⟨events, htrace, _⟩ := h.trace
      exact ⟨events, htrace.symm⟩
  | connect h => exact ⟨_, h.trace.symm⟩
  | work _ htrace => exact ⟨_, htrace.symm⟩
  | close => exact List.prefix_append ..

theorem trace_grows (h : Moves backend later) : backend.trace <+: later.trace := by
  induction h with
  | refl => exact List.prefix_rfl
  | tail _ hmove ih => exact ih.trans hmove.trace_grows

/-- An event at a connection comes last among the events of this connection. -/
theorem events_of_concat {event : Event} {connection : Connection}
    (htrace : later.trace = backend.trace ++ [event])
    (hevent : event.connection? = some connection) (number : Nat) :
    later.eventsOf number =
      backend.eventsOf number ++ if connection.number = number then [event] else [] := by
  rw [eventsOf, htrace, List.filter_append, ← eventsOf]
  by_cases h : connection.number = number
  · simp [Event.isAt, hevent, h]
  · simp [Event.isAt, hevent, h]

namespace Orderly

/-- A backend at which nothing has happened is orderly. -/
theorem empty : Orderly {} where
  unborn _ _ := rfl
  out _ hmem := nomatch hmem
  ended _ := .inl rfl

/-- Connections that are out have different numbers, all of which have been given out. -/
theorem number_le (h : backend.Orderly) {connection : Connection}
    (hmem : connection ∈ backend.checkedOut) : connection.number ≤ backend.connections := by
  by_contra hgreater
  obtain ⟨works, hlife⟩ := h.out connection hmem
  rw [h.unborn _ (by omega)] at hlife
  simp [Connection.life] at hlife

theorem eq_of_number (h : backend.Orderly) {connection other : Connection}
    (hmem : connection ∈ backend.checkedOut) (hother : other ∈ backend.checkedOut)
    (hnumber : other.number = connection.number) : other = connection := by
  obtain ⟨works, hlife⟩ := h.out connection hmem
  obtain ⟨others, hothers⟩ := h.out other hother
  rw [hnumber, hlife] at hothers
  have hconnect : Event.connect other ∈ connection.life works true := by
    rw [hothers]
    exact List.mem_append_left _ List.mem_cons_self
  exact eq_of_connect_mem_life hconnect

/-- What has happened at a connection is the life of one connection. -/
theorem life (h : backend.Orderly) (number : Nat) :
    backend.eventsOf number = [] ∨
      ∃ (connection : Connection) (works : _), connection.number = number ∧
        backend.eventsOf number =
          connection.life works (backend.checkedOut.contains connection) := by
  rcases h.ended number with hnone | ⟨connection, hmem, rfl⟩ |
    ⟨connection, works, rfl, hlife⟩
  · exact .inl hnone
  · obtain ⟨works, hlife⟩ := h.out connection hmem
    rw [← List.contains_iff_mem] at hmem
    exact .inr ⟨connection, works, rfl, hmem ▸ hlife⟩
  · refine .inr ⟨connection, works, rfl, ?_⟩
    have hout : backend.checkedOut.contains connection = false := by
      -- What is out has not been returned.
      by_contra hcontains
      rw [Bool.not_eq_false, List.contains_iff_mem] at hcontains
      obtain ⟨others, hothers⟩ := h.out connection hcontains
      have hclose : Event.close connection ∈ connection.life works false :=
        close_mem_life.2 ⟨rfl, rfl⟩
      rw [← hlife, hothers] at hclose
      exact Bool.noConfusion (close_mem_life.1 hclose).2
    rw [hout, hlife]

/-- A backend stays orderly where nothing happens at a connection. -/
theorem still (h : backend.Orderly) (hstill : backend.Still later) : later.Orderly := by
  obtain ⟨events, htrace, hevents⟩ := hstill.trace
  have hsame (number : Nat) : later.eventsOf number = backend.eventsOf number := by
    have hnone : events.filter (Event.isAt number) = [] := by
      refine List.filter_eq_nil_iff.2 fun event hevent ↦ ?_
      simp [Event.isAt, hevents event hevent]
    rw [eventsOf, htrace, List.filter_append, ← eventsOf, hnone, List.append_nil]
  exact {
    unborn := fun number hnumber ↦ by
      rw [hsame]
      exact h.unborn number (hstill.connections ▸ hnumber)
    out := fun connection hmem ↦ by
      rw [hsame]
      exact h.out connection (hstill.checkedOut ▸ hmem)
    ended := fun number ↦ by
      rw [hsame, hstill.checkedOut]
      exact h.ended number }

/-- Checking a connection out begins its life. -/
theorem connect (h : backend.Orderly) {connection : Connection}
    (hopens : backend.Opens connection later) : later.Orderly := by
  have hnumber := hopens.number
  have hconnections := hopens.connections
  have hevents := events_of_concat hopens.trace rfl
  -- The number has not been given out before, so the connect is the only event that has it.
  have hfirst : later.eventsOf connection.number = connection.life [] true := by
    rw [hevents, h.unborn _ (by omega), if_pos rfl]
    rfl
  have hother {number : Nat} (hne : number ≠ connection.number) :
      later.eventsOf number = backend.eventsOf number := by
    rw [hevents, if_neg hne.symm, List.append_nil]
  exact {
    unborn := fun number hgreater ↦ by
      rw [hother (by omega)]
      exact h.unborn number (by omega)
    out := fun other hmem ↦ by
      rw [hopens.checkedOut] at hmem
      rcases List.mem_append.1 hmem with hmem | hmem
      · have hle := h.number_le hmem
        rw [hother (by omega)]
        exact h.out other hmem
      · rw [List.mem_singleton.1 hmem]
        exact ⟨[], hfirst⟩
    ended := fun number ↦ by
      rw [hopens.checkedOut]
      by_cases heq : number = connection.number
      · exact .inr (.inl ⟨connection, by simp, heq.symm⟩)
      · rw [hother heq]
        rcases h.ended number with hnone | ⟨other, hmem, hother⟩ | hended
        · exact .inl hnone
        · exact .inr (.inl ⟨other, List.mem_append_left _ hmem, hother⟩)
        · exact .inr (.inr hended) }

/-- Work on a connection that is out goes on with its life. -/
theorem work (h : backend.Orderly) {connection : Connection} {work : Work}
    (hmem : connection ∈ backend.checkedOut)
    (htrace : later.trace = backend.trace ++ [work.event connection])
    (hout : later.checkedOut = backend.checkedOut)
    (hconnections : later.connections = backend.connections) : later.Orderly := by
  have hevents := events_of_concat htrace work_connection
  exact {
    unborn := fun number hgreater ↦ by
      have hle := h.number_le hmem
      rw [hevents, if_neg (by omega), List.append_nil]
      exact h.unborn number (by omega)
    out := fun other hother ↦ by
      rw [hout] at hother
      obtain ⟨works, hlife⟩ := h.out other hother
      by_cases heq : connection.number = other.number
      · obtain rfl := h.eq_of_number hother hmem heq
        rw [hevents, if_pos rfl, hlife, life_work]
        exact ⟨_, rfl⟩
      · rw [hevents, if_neg heq, List.append_nil]
        exact ⟨works, hlife⟩
    ended := fun number ↦ by
      rw [hout, hevents]
      by_cases heq : connection.number = number
      · exact .inr (.inl ⟨connection, hmem, heq⟩)
      · rw [if_neg heq, List.append_nil]
        exact h.ended number }

/-- Returning a connection that is out ends its life. -/
theorem close (h : backend.Orderly) {connection : Connection}
    (hmem : connection ∈ backend.checkedOut) : (backend.close connection).Orderly := by
  have hevents (number : Nat) : (backend.close connection).eventsOf number =
      backend.eventsOf number ++ if connection.number = number then [.close connection] else [] :=
    events_of_concat rfl rfl number
  have hout : (backend.close connection).checkedOut =
      backend.checkedOut.filter fun other ↦ other != connection := rfl
  obtain ⟨works, hlife⟩ := h.out connection hmem
  have hlast : (backend.close connection).eventsOf connection.number =
      connection.life works false := by
    rw [hevents, if_pos rfl, hlife, life_close]
  exact {
    unborn := fun number hgreater ↦ by
      have hle := h.number_le hmem
      have hbeyond : backend.connections < number := hgreater
      rw [hevents, if_neg (by omega), List.append_nil]
      exact h.unborn number hbeyond
    out := fun other hother ↦ by
      rw [hout, List.mem_filter, bne_iff_ne] at hother
      have hne : connection.number ≠ other.number := fun heq ↦
        hother.2 (h.eq_of_number hother.1 hmem heq).symm
      rw [hevents, if_neg hne, List.append_nil]
      exact h.out other hother.1
    ended := fun number ↦ by
      by_cases heq : connection.number = number
      · exact .inr (.inr ⟨connection, works, heq, heq ▸ hlast⟩)
      · rw [hevents, if_neg heq, List.append_nil]
        rcases h.ended number with hnone | ⟨other, hother, hnumber⟩ | hended
        · exact .inl hnone
        · refine .inr (.inl ⟨other, ?_, hnumber⟩)
          rw [hout, List.mem_filter, bne_iff_ne]
          refine ⟨hother, ?_⟩
          rintro rfl
          exact heq hnumber
        · exact .inr (.inr hended) }

/-- Every move keeps a backend orderly. -/
theorem move (h : backend.Orderly) (hmove : Move backend later) : later.Orderly := by
  cases hmove with
  | still hstill => exact h.still hstill
  | connect hopens => exact h.connect hopens
  | work hmem htrace hout hconnections => exact h.work hmem htrace hout hconnections
  | close hmem => exact h.close hmem

theorem moves (h : backend.Orderly) (hmoves : Moves backend later) : later.Orderly := by
  induction hmoves with
  | refl => exact h
  | tail _ hmove ih => exact ih.move hmove

end Orderly

end Backend

/-! ### What calls come to -/

namespace Backend

variable {backend later : Backend}

theorem Still.of_trace_eq (htrace : later.trace = backend.trace)
    (hout : later.checkedOut = backend.checkedOut)
    (hconnections : later.connections = backend.connections) : backend.Still later where
  trace := ⟨[], by rw [htrace, List.append_nil], fun _ hevent ↦ nomatch hevent⟩
  checkedOut := hout
  connections := hconnections

theorem Still.trans {middle : Backend} (h : backend.Still middle) (hlater : middle.Still later) :
    backend.Still later where
  trace := by
    obtain ⟨first, htrace, hfirst⟩ := h.trace
    obtain ⟨second, hnext, hsecond⟩ := hlater.trace
    refine ⟨first ++ second, ?_, List.forall_mem_append.2 ⟨hfirst, hsecond⟩⟩
    rw [hnext, htrace, List.append_assoc]
  checkedOut := hlater.checkedOut.trans h.checkedOut
  connections := hlater.connections.trans h.connections

variable (stores : Stores) (backend)

theorem set_up_still (database : String) :
    backend.Still (backend.setUp stores database).2 := by
  unfold setUp
  dsimp only
  split
  · exact .of_trace_eq rfl rfl rfl
  · exact ⟨⟨_, rfl, List.forall_mem_singleton.2 rfl⟩, rfl, rfl⟩

theorem dispose_pools_still (pools : List (String × Engine)) :
    backend.Still (pools.foldl (fun backend pool ↦ backend.dispose pool.2) backend) := by
  rw [dispose_pools_eq]
  exact ⟨⟨_, rfl, List.forall_mem_map.2 fun _ _ ↦ rfl⟩, rfl, rfl⟩

/-- Connecting fails with nothing happening at a connection, or it checks out the next one. -/
theorem connect_opens (engine : Engine) :
    (∃ fault later, backend.connect stores engine = (.error fault, later) ∧
        backend.Still later) ∨
      ∃ connection later, backend.connect stores engine = (.ok connection, later) ∧
        backend.Opens connection later := by
  unfold connect
  dsimp only
  split
  · exact .inl ⟨_, _, rfl, .of_trace_eq rfl rfl rfl⟩
  · split
    · exact .inl ⟨_, _, rfl, .of_trace_eq rfl rfl rfl⟩
    · exact .inr ⟨_, _, rfl, rfl, rfl, rfl, rfl⟩

end Backend

namespace Registry

variable (tenants : Tenants) (registry : Registry)

theorem evict_still (maxPools : Int) :
    registry.backend.Still (evict maxPools registry).2.backend := by
  unfold evict
  split
  · exact .of_trace_eq rfl rfl rfl
  · exact registry.backend.dispose_pools_still _

theorem engine_of_still (database : String) :
    registry.backend.Still (engineOf tenants database registry).2.backend := by
  have hsetup := registry.backend.set_up_still tenants.stores database
  unfold engineOf
  split
  · exact .of_trace_eq rfl rfl rfl
  split
  next fault backend hresult =>
    rw [hresult] at hsetup
    exact hsetup
  next engine backend hresult =>
    rw [hresult] at hsetup
    have hevict := evict_still ({ registry with backend }.register engine) tenants.maxPools
    split
    next hevicted =>
      rw [hevicted] at hevict
      exact hsetup.trans hevict
    next hevicted =>
      rw [hevicted] at hevict
      exact hsetup.trans hevict

/-- Asking for an engine touches no connection, whatever the bound on the number of pools is. -/
theorem engine_still (tenant : String) :
    registry.backend.Still (engine tenants tenant registry).2.backend := by
  unfold engine
  split
  · exact .of_trace_eq rfl rfl rfl
  · exact engine_of_still tenants registry _

/-- Acquiring a connection fails with nothing happening at a connection, or it checks out the next
one after nothing has happened at the others. -/
theorem acquire_opens (tenant : String) :
    (∃ failure later, acquire tenants tenant registry = (.error failure, later) ∧
        registry.backend.Still later.backend) ∨
      ∃ connection middle later, acquire tenants tenant registry = (.ok connection, later) ∧
        registry.backend.Still middle ∧ middle.Opens connection later.backend := by
  unfold acquire
  split
  · exact .inl ⟨_, _, rfl, .of_trace_eq rfl rfl rfl⟩
  next database _ =>
    have hengine := engine_still tenants registry database
    split
    next failure later hresult =>
      rw [hresult] at hengine
      exact .inl ⟨_, _, rfl, hengine⟩
    next engine middle hresult =>
      rw [hresult] at hengine
      rcases middle.backend.connect_opens tenants.stores engine with
        ⟨fault, backend, hconnect, hstill⟩ | ⟨connection, backend, hconnect, hopens⟩
      · rw [hconnect]
        exact .inl ⟨_, _, rfl, hengine.trans hstill⟩
      · rw [hconnect]
        exact .inr ⟨_, _, _, rfl, hengine, hopens⟩

end Registry

/-- Every call comes to moves of the backend. -/
theorem Call.moves (tenants : Tenants) (call : Call) (registry : Registry) :
    Backend.Moves registry.backend (call.perform tenants registry).backend := by
  cases call with
  | engine tenant => exact .single (.still (registry.engine_still tenants tenant))
  | acquire tenant =>
      rw [perform]
      rcases registry.acquire_opens tenants tenant with
        ⟨failure, later, hresult, hstill⟩ | ⟨connection, middle, later, hresult, hstill, hopens⟩
      · rw [hresult]
        exact .single (.still hstill)
      · rw [hresult]
        exact .tail (.single (.still hstill)) (.connect hopens)
  | release connection =>
      rw [perform, Registry.release]
      split
      next hout => exact .single (.close (List.contains_iff_mem.1 hout))
      next => exact .refl
  | execute connection text values =>
      rw [perform, Registry.execute, Registry.ask_registry]
      split
      next hout =>
        let statement := String.ofList (Query.bindNames text.toList)
        let work : Work := .statement statement (Query.named values)
        have htrace : (registry.backend.execute tenants.stores connection statement
            (Query.named values)).2.trace = registry.backend.trace ++ [work.event connection] := rfl
        exact .single (.work (List.contains_iff_mem.1 hout) htrace rfl rfl)
      next => exact .refl
  | describe connection schema =>
      rw [perform, Registry.describeTables, Registry.ask_registry]
      split
      next hout =>
        let work : Work := .inspection schema
        have htrace : (registry.backend.inspect tenants.stores connection schema).2.trace =
            registry.backend.trace ++ [work.event connection] := rfl
        exact .single (.work (List.contains_iff_mem.1 hout) htrace rfl rfl)
      next => exact .refl
  | dispose database =>
      rw [perform, Registry.dispose]
      dsimp only
      split
      · exact .single (.still ⟨⟨_, rfl, List.forall_mem_singleton.2 rfl⟩, rfl, rfl⟩)
      · exact .refl
  | disposeAll => exact .single (.still (registry.backend.dispose_pools_still _))
  | wait ticks => exact .single (.still (.of_trace_eq rfl rfl rfl))

/-- Every run comes to moves of the backend. -/
theorem Run.moves {tenants : Tenants} {start finish : Registry} {calls : List Call}
    (h : Run tenants start calls finish) : Backend.Moves start.backend finish.backend := by
  rw [h.finish_eq]
  clear h
  induction calls generalizing start with
  | nil => exact .refl
  | cons call calls ih => exact (call.moves tenants start).trans ih

end TenantReporting.Tenancy
