import TenantReporting.Proofs.Tenancy.Pools

/-!
# Every engine is disposed of once

The engines that have been created are those that have been disposed of together with those that are
registered, and none of them occurs twice in this account (`Registry.Balanced`). Every change of a
registry keeps the account balanced, so no run leaks an engine or disposes of one twice
(`engines_balanced`).
-/

namespace TenantReporting.Tenancy

open Query (databaseName)

/-- Every engine that has been created is either disposed of, once, or registered, under the name of
its database. -/
structure Registry.Balanced (registry : Registry) : Prop where
  keys : (Registry.keys registry.pools).Nodup
  names : ∀ pool ∈ registry.pools, pool.1 = pool.2.database ∧ databaseName pool.1 = .ok pool.1
  created : registry.backend.created.Perm
    (registry.backend.disposed ++ registry.pools.map Prod.snd)
  distinct : registry.backend.created.Nodup
  numbered : ∀ engine ∈ registry.backend.created, engine.serial ≤ registry.backend.engines

namespace Registry

variable {tenants : Tenants} {registry : Registry}

/-- A registry without pools, whose backend has created nothing, is balanced. -/
theorem balanced_empty : Balanced {} where
  keys := List.nodup_nil
  names := by simp
  created := .refl []
  distinct := List.nodup_nil
  numbered := by
    intro engine hmem
    cases hmem

namespace Balanced

/-- Reordering the pools keeps the balance, and so does all that creates and disposes of nothing. -/
theorem congr {later : Registry} (h : registry.Balanced)
    (hpools : later.pools.Perm registry.pools)
    (hcreated : later.backend.created = registry.backend.created)
    (hdisposed : later.backend.disposed = registry.backend.disposed)
    (hengines : later.backend.engines = registry.backend.engines) : later.Balanced where
  keys := (hpools.map Prod.fst).nodup_iff.2 h.keys
  names pool hpool := h.names pool (hpools.mem_iff.1 hpool)
  created := by
    rw [hcreated, hdisposed]
    exact h.created.trans ((hpools.map Prod.snd).symm.append_left _)
  distinct := by
    rw [hcreated]
    exact h.distinct
  numbered := by
    rw [hcreated, hengines]
    exact h.numbered

/-- The number of a new engine is greater than that of any other one. -/
theorem fresh (h : registry.Balanced) {engine : Engine} {backend : Backend}
    (hcreates : registry.backend.Creates engine backend) :
    engine ∉ registry.backend.created := by
  intro hmem
  have hserial := h.numbered engine hmem
  rw [hcreates.serial] at hserial
  omega

/-- Registering a new engine keeps the balance. -/
theorem register (h : registry.Balanced) {engine : Engine} {backend : Backend}
    (hname : databaseName engine.database = .ok engine.database)
    (hnew : registry.pools.lookup engine.database = none)
    (hcreates : registry.backend.Creates engine backend) :
    ({ registry with backend }.register engine).Balanced where
  keys := nodup_keys_concat h.keys (lookup_eq_none_iff.1 hnew) engine
  names := by
    intro pool hpool
    rcases List.mem_append.1 hpool with hold | hpool
    · exact h.names pool hold
    · rw [List.mem_singleton.1 hpool]
      exact ⟨rfl, hname⟩
  created := by
    simp only [Registry.register, hcreates.created, hcreates.disposed, List.map_append,
      List.map_cons, List.map_nil, ← List.append_assoc]
    exact h.created.append_right _
  distinct := by
    simp only [Registry.register, hcreates.created]
    exact List.nodup_append.2 ⟨h.distinct, List.nodup_singleton _, fun old hold other hother ↦ by
      rintro rfl
      exact h.fresh hcreates (List.mem_singleton.1 hother ▸ hold)⟩
  numbered := by
    intro old hold
    simp only [Registry.register, hcreates.created, hcreates.engines] at hold ⊢
    rcases List.mem_append.1 hold with hold | hold
    · exact (h.numbered old hold).trans (Nat.le_succ _)
    · rw [List.mem_singleton.1 hold, hcreates.serial]

/-- Evicting pools keeps the balance. -/
theorem evict (h : registry.Balanced) {maxPools : Int} (hbound : 0 ≤ maxPools) :
    (evict maxPools registry).2.Balanced where
  keys := by
    rw [evict_pools hbound]
    exact h.keys.sublist ((List.drop_sublist ..).map _)
  names := by
    rw [evict_pools hbound]
    exact fun pool hpool ↦ h.names pool (List.mem_of_mem_drop hpool)
  created := by
    rw [evict_created, evict_disposed hbound, evict_pools hbound, List.append_assoc,
      ← List.map_append, rdrop_append_rtake]
    exact h.created
  distinct := by
    rw [evict_created]
    exact h.distinct
  numbered := by
    rw [evict_created, evict_engines]
    exact h.numbered

/-- Disposing of a pool keeps the balance. -/
theorem dispose (h : registry.Balanced) (database : String) :
    (registry.dispose database).2.Balanced := by
  unfold Registry.dispose
  dsimp only
  split
  next engine hpool =>
    have hperm := perm_without h.keys hpool
    have hnodup := (hperm.map Prod.fst).nodup_iff.1 h.keys
    exact {
      keys := (List.nodup_cons.1 hnodup).2
      names := fun pool hmem ↦ h.names pool (List.mem_of_mem_filter hmem)
      created := by
        have hengines := (hperm.map Prod.snd).append_left registry.backend.disposed
        simp only [Backend.dispose, Backend.created_record, Backend.disposed_record,
          Event.created?, Event.disposed?, Option.toList_none, Option.toList_some,
          List.append_nil, List.append_assoc]
        exact h.created.trans hengines
      distinct := by
        simp only [Backend.dispose, Backend.created_record, Event.created?, Option.toList_none,
          List.append_nil]
        exact h.distinct
      numbered := by
        simp only [Backend.dispose, Backend.created_record, Event.created?, Option.toList_none,
          List.append_nil]
        exact h.numbered }
  next hnone =>
    have hpools := without_eq_self (lookup_eq_none_iff.1 hnone)
    exact h.congr (by rw [hpools]) rfl rfl rfl

/-- Disposing of all pools keeps the balance. -/
theorem disposeAll (h : registry.Balanced) : registry.disposeAll.Balanced where
  keys := List.nodup_nil
  names := by simp [Registry.disposeAll]
  created := by
    simp only [Registry.disposeAll, Backend.created_dispose_pools, Backend.disposed_pools,
      List.map_nil, List.append_nil]
    exact h.created
  distinct := by
    simp only [Registry.disposeAll, Backend.created_dispose_pools]
    exact h.distinct
  numbered := by
    simp only [Registry.disposeAll, Backend.created_dispose_pools]
    simp only [Backend.dispose_pools_eq]
    exact h.numbered

/-- Every change keeps the balance. -/
theorem change (hpools : 0 ≤ tenants.maxPools) (h : registry.Balanced) {deeds : List Deed}
    {later : Registry} (hchange : Change tenants registry deeds later) : later.Balanced := by
  cases hchange with
  | quiet hquiet =>
      exact h.congr (.refl _) hquiet.created hquiet.disposed hquiet.engines
  | touch hpool => exact h.congr (touch_perm h.keys hpool) rfl rfl rfl
  | establish hname hnew hcreates => exact (h.register hname hnew hcreates).evict hpools
  | grant hconnects =>
      exact h.congr (.refl _) hconnects.created hconnects.disposed hconnects.engines
  | release connection =>
      unfold release
      split
      · exact h.congr (.refl _) ((Backend.created_record _ _).trans (List.append_nil _))
          ((Backend.disposed_record _ _).trans (List.append_nil _)) rfl
      · exact h
  | dispose database => exact h.dispose database
  | disposeAll => exact h.disposeAll

/-- An engine that is registered is registered under the name of its database only, and it has never
been disposed of. -/
theorem registered (h : registry.Balanced) {pool : String × Engine}
    (hpool : pool ∈ registry.pools) :
    (∀ name, registry.pools.lookup name = some pool.2 ↔ name = pool.2.database) ∧
      registry.backend.disposed.count pool.2 = 0 := by
  obtain ⟨hname, _⟩ := h.names pool hpool
  have hlookup : registry.pools.lookup pool.2.database = some pool.2 :=
    (mem_iff_lookup h.keys).1 (hname ▸ hpool)
  refine ⟨fun name ↦ ⟨fun hfound ↦ ?_, fun heq ↦ heq ▸ hlookup⟩, ?_⟩
  · exact (h.names _ ((mem_iff_lookup h.keys).2 hfound)).1
  · have hengine : pool.2 ∈ registry.pools.map Prod.snd := List.mem_map_of_mem hpool
    have hdisjoint := (List.nodup_append.1 (h.created.nodup_iff.1 h.distinct)).2.2
    exact List.count_eq_zero.2 fun hdisposed ↦ hdisjoint _ hdisposed _ hengine rfl

/-- An engine that is not registered has been disposed of once. -/
theorem unregistered (h : registry.Balanced) {engine : Engine}
    (hcreated : engine ∈ registry.backend.created) (hnone : engine ∉ registry.pools.map Prod.snd) :
    registry.backend.disposed.count engine = 1 := by
  have hnodup := (List.nodup_append.1 (h.created.nodup_iff.1 h.distinct)).1
  rcases List.mem_append.1 (h.created.mem_iff.1 hcreated) with hdisposed | hpool
  · exact List.count_eq_one_of_mem hnodup hdisposed
  · exact absurd hpool hnone

end Balanced

/-! ### When engines are asked for -/

/-- An engine is asked for by the name of a database if there is no pool for it, and only once. -/
theorem engine_of_set_ups (database name : String) :
    (engineOf tenants database registry).2.backend.setUps name = registry.backend.setUps name ∨
      registry.hasPool name = false ∧
        (engineOf tenants database registry).2.backend.setUps name =
          registry.backend.setUps name + 1 := by
  have hevict (registry : Registry) :
      (Registry.evict tenants.maxPools registry).2.backend.setUps name =
        registry.backend.setUps name := by
    unfold Registry.evict
    split
    · rfl
    · simp only [Backend.dispose_pools_eq]
      rfl
  cases hlookup : registry.pools.lookup database with
  | some engine =>
      refine .inl ?_
      simp only [engineOf, hlookup]
  | none =>
      have hset := registry.backend.set_up_set_ups tenants.stores database name
      have hresult : (engineOf tenants database registry).2.backend.setUps name =
          (registry.backend.setUp tenants.stores database).2.setUps name := by
        simp only [engineOf, hlookup]
        split
        next hfailed => rw [hfailed]
        next engine backend hmade =>
          have hlater := hevict ({ registry with backend }.register engine)
          rw [hmade]
          split
          next hevicted => rwa [hevicted] at hlater
          next hevicted => rwa [hevicted] at hlater
      rw [hresult, hset]
      by_cases hname : name = database
      · refine .inr ⟨?_, by rw [if_pos hname]⟩
        rw [hname, hasPool, hlookup]
        rfl
      · exact .inl (by rw [if_neg hname]; rfl)

/-- Acquiring a connection asks for engines only where it asks for the engine of the tenant. -/
theorem acquire_set_ups {tenant database : String} (h : databaseName tenant = .ok database)
    (name : String) :
    (acquire tenants tenant registry).2.backend.setUps name =
      (engine tenants tenant registry).2.backend.setUps name := by
  unfold acquire
  simp only [h, engine_of_name tenants registry h]
  cases engine tenants tenant registry with
  | mk outcome middle =>
    cases outcome with
    | error failure => rfl
    | ok engine =>
      have hconnect := middle.backend.connect_set_ups tenants.stores engine name
      dsimp only
      split
      next hresult => rwa [hresult] at hconnect
      next hresult => rwa [hresult] at hconnect

/-- A call asks for an engine by the name of a database if there is no pool for it, and only
once. -/
theorem call_set_ups (call : Call) (name : String) :
    (call.perform tenants registry).backend.setUps name = registry.backend.setUps name ∨
      registry.hasPool name = false ∧
        (call.perform tenants registry).backend.setUps name =
          registry.backend.setUps name + 1 := by
  have hengine (tenant : String) :
      (engine tenants tenant registry).2.backend.setUps name = registry.backend.setUps name ∨
        registry.hasPool name = false ∧
          (engine tenants tenant registry).2.backend.setUps name =
            registry.backend.setUps name + 1 := by
    unfold engine
    split
    · exact .inl rfl
    · exact engine_of_set_ups _ _
  cases call with
  | engine tenant => exact hengine tenant
  | acquire tenant =>
      cases hname : databaseName tenant with
      | error defect => simp only [Call.perform, acquire, hname, true_or]
      | ok database =>
          rw [Call.perform, acquire_set_ups hname]
          exact hengine tenant
  | release connection =>
      rw [Call.perform, release]
      split <;> exact .inl rfl
  | execute connection text values =>
      refine .inl ?_
      rw [Call.perform, execute, ask_registry]
      split
      · exact registry.backend.execute_set_ups tenants.stores connection _ _ name
      · rfl
  | describe connection schema =>
      refine .inl ?_
      rw [Call.perform, describeTables, ask_registry]
      split
      · exact registry.backend.inspect_set_ups tenants.stores connection schema name
      · rfl
  | dispose database =>
      rw [Call.perform, Registry.dispose]
      dsimp only
      split <;> exact .inl rfl
  | disposeAll =>
      simp only [Call.perform, Registry.disposeAll, Backend.dispose_pools_eq]
      exact .inl rfl
  | wait ticks => exact .inl rfl

end Registry

/-! ### Engines over a run -/

variable {tenants : Tenants}

/-- Every run that begins without pools ends balanced. -/
theorem Run.balanced (hpools : 0 ≤ tenants.maxPools) {calls : List Call} {registry : Registry}
    (h : Run tenants {} calls registry) : registry.Balanced :=
  h.invariant (fun _ registry ↦ registry.Balanced) hpools
    (fun h hchange ↦ h.change hpools hchange) Registry.balanced_empty

/-- No run leaks an engine or disposes of one twice. Every engine that has been created is
registered under the name of its database and nowhere else, and has never been disposed of, or it is
not registered and has been disposed of once. An engine is asked for by a name only if there is no
pool of that name. Disposing of all pools leaves none, and every engine is then disposed of once. -/
theorem engines_balanced (hpools : 0 ≤ tenants.maxPools) {calls : List Call} {registry : Registry}
    (hrun : Run tenants {} calls registry) :
    (∀ engine ∈ registry.backend.created,
      (databaseName engine.database = .ok engine.database ∧
          (∀ name, registry.pools.lookup name = some engine ↔ name = engine.database) ∧
          registry.backend.disposed.count engine = 0) ∨
        (engine ∉ registry.pools.map Prod.snd ∧ registry.backend.disposed.count engine = 1)) ∧
      (∀ (call : Call) (name : String),
        (call.perform tenants registry).backend.setUps name = registry.backend.setUps name ∨
          registry.hasPool name = false ∧
            (call.perform tenants registry).backend.setUps name =
              registry.backend.setUps name + 1) ∧
      registry.disposeAll.pools = [] ∧ registry.disposeAll.usage = [] ∧
      registry.disposeAll.backend.created = registry.backend.created ∧
      ∀ engine ∈ registry.backend.created,
        registry.disposeAll.backend.disposed.count engine = 1 := by
  have hbalanced := hrun.balanced hpools
  have hcreated : registry.disposeAll.backend.created = registry.backend.created :=
    registry.backend.created_dispose_pools registry.pools
  refine ⟨?_, Registry.call_set_ups, rfl, rfl, hcreated, ?_⟩
  · intro engine hengine
    by_cases hpool : engine ∈ registry.pools.map Prod.snd
    · obtain ⟨pool, hmem, rfl⟩ := List.mem_map.1 hpool
      obtain ⟨hlookup, hcount⟩ := hbalanced.registered hmem
      obtain ⟨hname, hvalid⟩ := hbalanced.names pool hmem
      exact .inl ⟨hname ▸ hvalid, hlookup, hcount⟩
    · exact .inr ⟨hpool, hbalanced.unregistered hengine hpool⟩
  · intro engine hengine
    exact hbalanced.disposeAll.unregistered (hcreated ▸ hengine) List.not_mem_nil

/-- While a connection to one database is held, the pool of another takes the only place. -/
theorem crossing_block_balanced :
    let tenants : Tenants := { maxPools := 1 }
    let registry := (Registry.withConnection tenants "south"
      (fun _ ↦ Registry.engine tenants " north ") {}).2
    registry.backend.created = [⟨1, "south"⟩, ⟨2, "north"⟩] ∧
      registry.pools = [("north", ⟨2, "north"⟩)] ∧
      registry.backend.disposed.count ⟨1, "south"⟩ = 1 ∧
      registry.backend.disposed.count ⟨2, "north"⟩ = 0 := by
  intro tenants registry
  have hcreated : registry.backend.created = [⟨1, "south"⟩, ⟨2, "north"⟩] := by decide
  have hpools : registry.pools = [("north", ⟨2, "north"⟩)] := by decide
  have hrun : Run tenants {}
      [.acquire "south", .engine " north ", .release ⟨1, ⟨1, "south"⟩⟩] registry :=
    .hold (.start {}) "south" (fun _ ↦ Registry.engine tenants " north ") rfl
      (.call (.start _) (.engine " north "))
  obtain ⟨hengines, _⟩ := engines_balanced (by decide) hrun
  refine ⟨hcreated, hpools, ?_, ?_⟩
  · rcases hengines ⟨1, "south"⟩ (by simp [hcreated]) with ⟨_, hlookup, _⟩ | ⟨_, hcount⟩
    · have hfound := (hlookup "south").2 rfl
      rw [hpools] at hfound
      exact absurd hfound (by decide)
    · exact hcount
  · rcases hengines ⟨2, "north"⟩ (by simp [hcreated]) with ⟨_, _, hcount⟩ | ⟨hnone, _⟩
    · exact hcount
    · simp [hpools] at hnone

end TenantReporting.Tenancy
