import TenantReporting.Proofs.Tenancy.Scopes

/-!
# Visits to one database

Whoever holds a connection to a database visits it and no other one. While nothing else is going on,
that is while no connection is out, a visit is answered as the store of the database decides from
the number of connections, statements and inspections that it has been asked for before
(`Store.visit`); which engines there are, how old they are and what other databases are doing does
not matter (`visit_cases`).
-/

namespace TenantReporting.Tenancy

open Query (databaseName)

/-! ### What a store is asked for -/

/-- How many connections, statements and inspections a store has been asked for. -/
@[ext]
structure Demand where
  connects : Nat := 0
  statements : Nat := 0
  inspections : Nat := 0

namespace Demand

instance : Zero Demand := ⟨{}⟩

instance : Add Demand :=
  ⟨fun first second ↦
    ⟨first.connects + second.connects, first.statements + second.statements,
      first.inspections + second.inspections⟩⟩

@[simp] theorem add_zero (demand : Demand) : demand + 0 = demand := rfl

@[simp] theorem zero_add (demand : Demand) : 0 + demand = demand :=
  Demand.ext (Nat.zero_add _) (Nat.zero_add _) (Nat.zero_add _)

theorem add_assoc (first second third : Demand) :
    first + second + third = first + (second + third) :=
  Demand.ext (Nat.add_assoc ..) (Nat.add_assoc ..) (Nat.add_assoc ..)

end Demand

/-- What the store of a database has been asked for. -/
def Backend.demand (backend : Backend) (database : String) : Demand :=
  let progress := backend.progress database
  ⟨progress.connects, progress.statements, progress.inspections⟩

/-- A reply to a visit: the outcome, what was asked for, and the time that it took. -/
structure Reply (α : Type) where
  outcome : Except Failure α
  asked : Demand := 0
  ticks : Int := 0

namespace Store

/-- The fault with which the store refuses a connection to one who holds none. -/
def refusal? (store : Store) (connects : Nat) : Option StoreFault :=
  match store.connect connects with
  | some fault => some fault
  | none => if store.capacity ≤ 0 then some ⟨.timeout, "QueuePool limit reached"⟩ else none

/-- The reply to a visit that is replied to as told once there is a connection. -/
def visit {α : Type} (store : Store) (database : String) (reply : Demand → Reply α)
    (demand : Demand) : Reply α :=
  match store.refusal? demand.connects with
  | some fault =>
    { outcome := .error (Registry.connectFailure database fault), asked := { connects := 1 } }
  | none =>
    let reply := reply (demand + { connects := 1 })
    { reply with asked := { connects := 1 } + reply.asked }

/-- The reply to a statement. -/
def replyToStatement (store : Store) (demand : Demand) : Reply (List Json) :=
  let answer := store.statement demand.statements
  { outcome := answer.outcome.mapError Registry.executionFailure
    asked := { statements := 1 }
    ticks := answer.ticks }

/-- The reply to a question for the tables of a schema. -/
def replyToDescription (store : Store) (schema : String) (demand : Demand) :
    Reply (List TableDescription) :=
  let found := store.inspection demand.inspections schema
  { outcome := (found.mapError Registry.executionFailure).map TableListing.describeAll
    asked := { inspections := 1 } }

end Store

/-! ### What a visit changes -/

/-- Every pool holds an engine of the database that it is registered for. -/
def Registry.IsNamed (registry : Registry) : Prop :=
  ∀ pool ∈ registry.pools, pool.2.database = pool.1

/-- Between two registries so much was asked of the store of a database and nothing of the other
ones, so much time has passed, and pools have kept their names. -/
structure Registry.Visits (registry : Registry) (database : String) (asked : Demand) (ticks : Int)
    (later : Registry) : Prop where
  demand : ∀ name, later.backend.demand name =
    registry.backend.demand name + if name = database then asked else 0
  clock : later.backend.clock = registry.backend.clock + ticks
  named : registry.IsNamed → later.IsNamed

/-- No connection is out, and pools have their names. -/
structure Registry.AtRest (registry : Registry) : Prop where
  checkedOut : registry.backend.checkedOut = []
  named : registry.IsNamed

namespace Registry

variable {registry middle later : Registry} {database : String}

/-- Where no store has been asked for anything and no time has passed, nobody was visited. -/
theorem Visits.none
    (hdemand : ∀ name, later.backend.demand name = registry.backend.demand name)
    (hclock : later.backend.clock = registry.backend.clock)
    (hnamed : registry.IsNamed → later.IsNamed) : registry.Visits database 0 0 later where
  demand name := by rw [hdemand, ite_self, Demand.add_zero]
  clock := by rw [hclock, Int.add_zero]
  named := hnamed

theorem Visits.trans {asked more : Demand} {ticks further : Int}
    (h : registry.Visits database asked ticks middle)
    (hlater : middle.Visits database more further later) :
    registry.Visits database (asked + more) (ticks + further) later where
  demand name := by
    rw [hlater.demand, h.demand]
    split
    · rw [Demand.add_assoc]
    · rw [Demand.add_zero]
  clock := by rw [hlater.clock, h.clock, Int.add_assoc]
  named hnamed := hlater.named (h.named hnamed)

/-- Other databases do not notice a visit. -/
theorem Visits.demand_of_ne {asked : Demand} {ticks : Int} {name : String}
    (h : registry.Visits database asked ticks later) (hne : name ≠ database) :
    later.backend.demand name = registry.backend.demand name := by
  rw [h.demand, if_neg hne, Demand.add_zero]

/-! ### Engines -/

/-- Setting up an engine asks for no connection and no statement. -/
theorem set_up_visits (registry : Registry) (stores : Stores) (name : String) :
    registry.Visits database 0 0
      { registry with backend := (registry.backend.setUp stores name).2 } := by
  refine .none (fun other ↦ ?_) ?_ id
  · unfold Backend.setUp Backend.advance Backend.demand
    dsimp only
    split
    · dsimp only
      split <;> rfl
    · dsimp only [Backend.record]
      split <;> rfl
  · unfold Backend.setUp
    dsimp only
    split <;> rfl

theorem evict_visits (registry : Registry) (maxPools : Int) :
    registry.Visits database 0 0 (evict maxPools registry).2 := by
  unfold evict
  split
  · exact .none (fun _ ↦ rfl) rfl fun _ _ hpool ↦ nomatch hpool
  · dsimp only
    rw [Backend.dispose_pools_eq]
    exact .none (fun _ ↦ rfl) rfl fun hnamed pool hpool ↦ hnamed pool (List.mem_of_mem_drop hpool)

theorem register_visits (registry : Registry) (engine : Engine) :
    registry.Visits database 0 0 (registry.register engine) := by
  refine .none (fun _ ↦ rfl) rfl fun hnamed ↦ ?_
  exact List.forall_mem_append.2 ⟨hnamed, List.forall_mem_singleton.2 rfl⟩

theorem mem_of_lookup {engine : Engine} (h : registry.pools.lookup database = some engine) :
    (database, engine) ∈ registry.pools := by
  obtain ⟨before, after, hpools, -⟩ := List.lookup_eq_some_iff.1 h
  rw [hpools]
  exact List.mem_append_right _ List.mem_cons_self

variable (tenants : Tenants)

/-- Whoever asks for an engine visits nobody yet. -/
theorem engine_of_visits (registry : Registry) (name : String) :
    registry.Visits database 0 0 (engineOf tenants name registry).2 := by
  unfold engineOf
  split
  next engine hlookup =>
    refine .none (fun _ ↦ rfl) rfl fun hnamed ↦ List.forall_mem_append.2 ⟨?_, ?_⟩
    · exact fun pool hpool ↦ hnamed pool (List.mem_filter.1 hpool).1
    · exact List.forall_mem_singleton.2 (hnamed _ (mem_of_lookup hlookup))
  have hset : registry.Visits database 0 0
    { registry with backend := (registry.backend.setUp tenants.stores name).2 } :=
    set_up_visits registry tenants.stores name
  split
  next fault backend hresult =>
    rw [hresult] at hset
    exact hset
  next engine backend hresult =>
    rw [hresult] at hset
    have hevict := (hset.trans (register_visits _ engine)).trans (evict_visits _ tenants.maxPools)
    split
    next hevicted =>
      rw [hevicted] at hevict
      exact hevict
    next hevicted =>
      rw [hevicted] at hevict
      exact hevict

variable {tenants}

/-- The engine of a database is one of this database. -/
theorem engine_of_database {engine : Engine} (hnamed : registry.IsNamed)
    (h : (engineOf tenants database registry).1 = .ok engine) : engine.database = database := by
  unfold engineOf at h
  split at h
  next hlookup =>
    cases h
    exact hnamed _ (mem_of_lookup hlookup)
  split at h
  · cases h
  next made backend hmade =>
    have hdatabase : made.database = database := by
      unfold Backend.setUp at hmade
      dsimp only at hmade
      split at hmade
      · cases hmade
      · cases hmade
        rfl
    split at h
    · cases h
    · cases h
      exact hdatabase

/-- Asking for an engine fails only if one cannot be set up. -/
theorem set_up_of_engine_failure (hpools : 0 ≤ tenants.maxPools) {failure : Failure}
    (h : (engineOf tenants database registry).1 = .error failure) :
    ∃ attempt fault, (tenants.stores database).setUp attempt = some fault := by
  unfold engineOf at h
  split at h
  · cases h
  split at h
  next hfailed =>
    unfold Backend.setUp at hfailed
    dsimp only at hfailed
    split at hfailed
    next fault hfault => exact ⟨_, fault, hfault⟩
    next => cases hfailed
  · rw [evict_eq _ hpools] at h
    cases h

/-! ### Connections -/

/-- Connecting asks the store of the engine's database for a connection. -/
theorem connect_visits (registry : Registry) (stores : Stores) (engine : Engine) :
    registry.Visits engine.database { connects := 1 } 0
      { registry with backend := (registry.backend.connect stores engine).2 } := by
  have hdemand (name : String) :
      (registry.backend.advance engine.database fun progress ↦
        { progress with connects := progress.connects + 1 }).demand name =
      registry.backend.demand name + if name = engine.database then { connects := 1 } else 0 := by
    unfold Backend.advance Backend.demand
    dsimp only
    split
    · rfl
    · rfl
  unfold Backend.connect
  dsimp only
  split
  · exact ⟨hdemand, (Int.add_zero _).symm, id⟩
  · split
    · exact ⟨hdemand, (Int.add_zero _).symm, id⟩
    · exact ⟨hdemand, (Int.add_zero _).symm, id⟩

theorem count_use_visits (registry : Registry) (name : String) :
    registry.Visits database 0 0 (countUse name registry) :=
  .none (fun _ ↦ rfl) rfl id

/-- While no connection is out, the store alone decides whether it grants one. -/
theorem connect_at_rest {backend : Backend} (hout : backend.checkedOut = []) (stores : Stores)
    (engine : Engine) :
    match (stores engine.database).refusal? (backend.demand engine.database).connects with
    | some fault => ∃ later, backend.connect stores engine = (.error fault, later) ∧
        later.checkedOut = []
    | none => ∃ connection later, connection.engine = engine ∧
        backend.connect stores engine = (.ok connection, later) ∧
        later.checkedOut = [connection] := by
  -- The capacity bounds what is out of the engine at once, and that is nothing.
  have hcount (change : Progress → Progress) :
      (backend.advance engine.database change).outCount engine = 0 := by
    unfold Backend.outCount Backend.advance
    dsimp only
    rw [hout]
    rfl
  unfold Store.refusal? Backend.connect Backend.demand
  dsimp only
  cases (stores engine.database).connect (backend.progress engine.database).connects with
  | some fault => exact ⟨_, rfl, hout⟩
  | none =>
      simp only [hcount]
      by_cases hfull : (stores engine.database).capacity ≤ 0
      · rw [if_pos hfull]
        exact ⟨_, if_pos hfull, hout⟩
      · rw [if_neg hfull]
        refine ⟨_, _, rfl, if_neg hfull, ?_⟩
        dsimp only [Backend.record, Backend.advance]
        rw [hout, List.nil_append]

/-- Acquiring a connection while none is out: no engine can be set up, or the store of the tenant's
database alone decides. -/
theorem acquire_at_rest (hpools : 0 ≤ tenants.maxPools) {tenant : String}
    (h : databaseName tenant = .ok database) (hrest : registry.AtRest) :
    (∃ attempt fault failure later, (tenants.stores database).setUp attempt = some fault ∧
        acquire tenants tenant registry = (.error failure, later) ∧
        registry.Visits database 0 0 later ∧ later.AtRest) ∨
      ∃ later, registry.Visits database { connects := 1 } 0 later ∧
        match (tenants.stores database).refusal? (registry.backend.demand database).connects with
        | some fault => acquire tenants tenant registry =
            (.error (connectFailure database fault), later) ∧ later.backend.checkedOut = []
        | none => ∃ connection : Connection, connection.engine.database = database ∧
            acquire tenants tenant registry = (.ok connection, later) ∧
            later.backend.checkedOut = [connection] := by
  have hvisits : registry.Visits database 0 0 (engineOf tenants database registry).2 :=
    engine_of_visits tenants registry database
  have hout := (engine_of_still tenants registry database).checkedOut.trans hrest.checkedOut
  unfold acquire
  simp only [h, engine_of_name tenants registry h, engine_eq tenants registry h]
  rcases hmade : engineOf tenants database registry with ⟨failure | engine, middle⟩
  · have hfailed : (engineOf tenants database registry).1 = .error failure := by rw [hmade]
    obtain ⟨attempt, fault, hsetup⟩ := set_up_of_engine_failure hpools hfailed
    rw [hmade] at hvisits hout
    exact .inl ⟨attempt, fault, failure, middle, hsetup, rfl, hvisits, hout,
      hvisits.named hrest.named⟩
  · obtain rfl : engine.database = database := engine_of_database hrest.named (by rw [hmade])
    rw [hmade] at hvisits hout
    dsimp only at hvisits hout ⊢
    have hconnects := hvisits.trans (connect_visits middle tenants.stores engine)
    have hconnect := connect_at_rest hout tenants.stores engine
    -- The engine has asked the store for nothing yet, whether it is old or has just been set up.
    have hdemand := hvisits.demand engine.database
    rw [ite_self, Demand.add_zero] at hdemand
    rw [hdemand] at hconnect
    rw [Demand.zero_add, Int.zero_add] at hconnects
    refine .inr ?_
    cases hrefusal : (tenants.stores engine.database).refusal?
        (registry.backend.demand engine.database).connects with
    | some fault =>
        rw [hrefusal] at hconnect
        obtain ⟨later, hresult, hlater⟩ := hconnect
        rw [hresult] at hconnects ⊢
        exact ⟨_, hconnects, rfl, hlater⟩
    | none =>
        rw [hrefusal] at hconnect
        obtain ⟨connection, later, hengine, hresult, hlater⟩ := hconnect
        rw [hresult] at hconnects ⊢
        have hcounted := hconnects.trans (count_use_visits _ engine.database)
        rw [Demand.add_zero, Int.add_zero] at hcounted
        exact ⟨_, hcounted, connection, congrArg Engine.database hengine, rfl, hlater⟩

/-! ### Visits -/

/-- On a connection to the database that is out, the use of it replies as told, visits no other
database, and leaves the same connections out. -/
def Replies {α : Type} (use : Connection → Operation α) (database : String)
    (reply : Demand → Reply α) : Prop :=
  ∀ connection registry, connection.engine.database = database →
    registry.isOut connection = true →
      let told := reply (registry.backend.demand database)
      ∃ later, use connection registry = (told.outcome, later) ∧
        registry.Visits database told.asked told.ticks later ∧
        later.backend.checkedOut = registry.backend.checkedOut

theorem execute_replies (tenants : Tenants) (database text : String) (values : List Json) :
    Replies (fun connection ↦ execute tenants connection text values) database
      (tenants.stores database).replyToStatement := by
  rintro connection registry rfl hout
  have hdemand (name : String) :
      (registry.backend.advance connection.engine.database fun progress ↦
        { progress with statements := progress.statements + 1 }).demand name =
      registry.backend.demand name +
        if name = connection.engine.database then { statements := 1 } else 0 := by
    unfold Backend.advance Backend.demand
    dsimp only
    split <;> rfl
  dsimp only [execute]
  rw [ask_eq, if_pos hout, Except.map_id]
  exact ⟨_, rfl, ⟨hdemand, rfl, id⟩, rfl⟩

theorem describe_replies (tenants : Tenants) (database schema : String) :
    Replies (fun connection ↦ describeTables tenants connection schema) database
      ((tenants.stores database).replyToDescription schema) := by
  rintro connection registry rfl hout
  have hdemand (name : String) :
      (registry.backend.advance connection.engine.database fun progress ↦
        { progress with inspections := progress.inspections + 1 }).demand name =
      registry.backend.demand name +
        if name = connection.engine.database then { inspections := 1 } else 0 := by
    unfold Backend.advance Backend.demand
    dsimp only
    split <;> rfl
  dsimp only [describeTables]
  rw [ask_eq, if_pos hout]
  exact ⟨_, rfl, ⟨hdemand, (Int.add_zero _).symm, id⟩, rfl⟩

theorem release_visits (registry : Registry) (connection : Connection) :
    registry.Visits database 0 0 (registry.release connection) := by
  unfold release
  split
  · exact .none (fun _ ↦ rfl) rfl id
  · exact .none (fun _ ↦ rfl) rfl id

/-- A visit while no connection is out: no engine can be set up, or the store of the tenant's
database alone decides. Afterwards no connection is out again. -/
theorem visit_cases {α : Type} (hpools : 0 ≤ tenants.maxPools) {tenant : String}
    (h : databaseName tenant = .ok database) (hrest : registry.AtRest)
    {use : Connection → Operation α} {reply : Demand → Reply α}
    (huse : Replies use database reply) :
    (∃ attempt fault failure later, (tenants.stores database).setUp attempt = some fault ∧
        withConnection tenants tenant use registry = (.error failure, later) ∧
        registry.Visits database 0 0 later ∧ later.AtRest) ∨
      let told := (tenants.stores database).visit database reply (registry.backend.demand database)
      ∃ later, withConnection tenants tenant use registry = (told.outcome, later) ∧
        registry.Visits database told.asked told.ticks later ∧ later.AtRest := by
  rcases acquire_at_rest hpools h hrest with
    ⟨attempt, fault, failure, later, hsetup, hacquire, hvisits, hlater⟩ |
    ⟨opened, hvisits, hacquire⟩
  · refine .inl ⟨attempt, fault, failure, later, hsetup, ?_, hvisits, hlater⟩
    rw [withConnection, hacquire]
  refine .inr ?_
  dsimp only [Store.visit]
  cases hrefusal : (tenants.stores database).refusal?
      (registry.backend.demand database).connects with
  | some fault =>
      rw [hrefusal] at hacquire
      obtain ⟨hacquire, hout⟩ := hacquire
      refine ⟨opened, ?_, hvisits, hout, hvisits.named hrest.named⟩
      rw [withConnection, hacquire]
  | none =>
      rw [hrefusal] at hacquire
      obtain ⟨connection, hdatabase, hacquire, hout⟩ := hacquire
      have hisOut : opened.isOut connection = true := by
        rw [isOut, hout]
        exact List.contains_iff_mem.2 (List.mem_singleton_self _)
      obtain ⟨used, hused, husedVisits, husedOut⟩ := huse connection opened hdatabase hisOut
      have hdemand := hvisits.demand database
      rw [if_pos rfl] at hdemand
      rw [hdemand] at hused husedVisits
      have hall := (hvisits.trans husedVisits).trans (release_visits used connection)
      rw [Demand.add_zero, Int.add_zero, Int.zero_add] at hall
      refine ⟨used.release connection, ?_, hall, ?_, hall.named hrest.named⟩
      · rw [with_connection_eq use hacquire, hused]
      · rw [release_checked_out, husedOut, hout]
        simp

/-- Where engines can be set up, the store of the tenant's database alone decides on a visit. -/
theorem visit_eq {α : Type} (hpools : 0 ≤ tenants.maxPools) {tenant : String}
    (h : databaseName tenant = .ok database)
    (hsetup : ∀ attempt, (tenants.stores database).setUp attempt = none) (hrest : registry.AtRest)
    {use : Connection → Operation α} {reply : Demand → Reply α}
    (huse : Replies use database reply) :
    let told := (tenants.stores database).visit database reply (registry.backend.demand database)
    ∃ later, withConnection tenants tenant use registry = (told.outcome, later) ∧
      registry.Visits database told.asked told.ticks later ∧ later.AtRest := by
  rcases visit_cases hpools h hrest huse with ⟨attempt, fault, _, _, hfault, _⟩ | hvisit
  · rw [hsetup] at hfault
    cases hfault
  · exact hvisit

/-- Two registries at rest that have asked the same of the store of a database are answered alike
when they visit it, and the visits take equally long. -/
theorem visits_alike {α : Type} (hpools : 0 ≤ tenants.maxPools) {tenant : String}
    (h : databaseName tenant = .ok database)
    (hsetup : ∀ attempt, (tenants.stores database).setUp attempt = none) {twin : Registry}
    (hrest : registry.AtRest) (htwin : twin.AtRest)
    (hdemand : twin.backend.demand database = registry.backend.demand database)
    {use : Connection → Operation α} {reply : Demand → Reply α}
    (huse : Replies use database reply) :
    let done := withConnection tenants tenant use registry
    let twinDone := withConnection tenants tenant use twin
    twinDone.1 = done.1 ∧
      twinDone.2.backend.demand database = done.2.backend.demand database ∧
      twinDone.2.backend.clock - twin.backend.clock =
        done.2.backend.clock - registry.backend.clock := by
  obtain ⟨later, hresult, hvisits, -⟩ := visit_eq hpools h hsetup hrest huse
  obtain ⟨twinLater, htwinResult, htwinVisits, -⟩ := visit_eq hpools h hsetup htwin huse
  rw [hdemand] at htwinResult htwinVisits
  have hclock := hvisits.clock
  have htwinClock := htwinVisits.clock
  rw [hresult, htwinResult]
  refine ⟨rfl, ?_, ?_⟩
  · dsimp only
    rw [hvisits.demand, htwinVisits.demand, hdemand]
  · dsimp only
    omega

/-- What is left of a visit for all that do not visit the same database: time may have passed. -/
structure Passes (registry : Registry) (tenant : String) (later : Registry) : Prop where
  atRest : later.AtRest
  clock : registry.backend.clock ≤ later.backend.clock
  demand : ∀ name, databaseName tenant ≠ .ok name →
    later.backend.demand name = registry.backend.demand name

/-- A visit takes no time but that of its reply, and other databases do not notice it. -/
theorem visit_passes {α : Type} (hpools : 0 ≤ tenants.maxPools) (hrest : registry.AtRest)
    {tenant : String} {use : Connection → Operation α} {reply : String → Demand → Reply α}
    (huse : ∀ database, Replies use database (reply database))
    (hticks : ∀ database demand, 0 ≤ (reply database demand).ticks) :
    registry.Passes tenant (withConnection tenants tenant use registry).2 := by
  cases hname : databaseName tenant with
  | error defect =>
      have hrefused : (withConnection tenants tenant use registry).2 = registry := by
        simp only [withConnection, acquire, hname]
      rw [hrefused]
      exact ⟨hrest, Int.le_refl _, fun _ _ ↦ rfl⟩
  | ok database =>
      have hother {asked : Demand} {ticks : Int} {later : Registry}
          (hvisits : registry.Visits database asked ticks later) (name : String)
          (hne : databaseName tenant ≠ .ok name) :
          later.backend.demand name = registry.backend.demand name := by
        refine hvisits.demand_of_ne ?_
        rintro rfl
        exact hne hname
      rcases visit_cases hpools hname hrest (huse database) with
        ⟨_, _, _, later, _, hresult, hvisits, hlater⟩ | ⟨later, hresult, hvisits, hlater⟩
      · rw [hresult]
        exact ⟨hlater, by rw [hvisits.clock]; omega, hother hvisits⟩
      · have hspan : 0 ≤ ((tenants.stores database).visit database (reply database)
            (registry.backend.demand database)).ticks := by
          unfold Store.visit
          split
          · exact Int.le_refl 0
          · exact hticks _ _
        rw [hresult]
        exact ⟨hlater, by rw [hvisits.clock]; omega, hother hvisits⟩

end Registry

end TenantReporting.Tenancy
