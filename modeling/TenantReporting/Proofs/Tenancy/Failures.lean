import TenantReporting.Proofs.Tenancy.Accounts
import TenantReporting.Proofs.Tenancy.Scopes

/-!
# What failed calls leave behind

A call that fails may have asked a store for something, and only the store can tell
(`Registry.LeavesNoTrace`). Where no engine can be handed out, the registry is as it was before.
Where an engine is handed out but no connection, the registry is as if only the engine had been
asked for: a pool may have been set up for it and others may have made room, but nothing is counted
and nothing is out (`failed_calls_leave_no_trace`).
-/

namespace TenantReporting.Tenancy

open Query (databaseName)

/-- Between two registries nothing has happened that anyone but the stores could tell: they differ
at most in how many requests the stores have answered. -/
def Registry.LeavesNoTrace (registry later : Registry) : Prop :=
  later =
    { registry with backend := { registry.backend with progress := later.backend.progress } }

namespace Backend

variable {stores : Stores} {backend later : Backend} {fault : StoreFault}

/-- The only trace of an engine that cannot be set up is the request for it. -/
theorem set_up_failed {database : String}
    (h : backend.setUp stores database = (.error fault, later)) :
    later = { backend with progress := later.progress } := by
  unfold setUp at h
  dsimp only at h
  split at h
  · cases h
    rfl
  · cases h

/-- The only trace of a connection that is refused is the request for it. -/
theorem connect_failed {engine : Engine}
    (h : backend.connect stores engine = (.error fault, later)) :
    later = { backend with progress := later.progress } := by
  unfold connect at h
  dsimp only at h
  split at h
  · cases h
    rfl
  · split at h
    · cases h
      rfl
    · cases h

end Backend

namespace Registry

variable {tenants : Tenants} {registry later : Registry} {tenant : String} {failure : Failure}

theorem LeavesNoTrace.refl (registry : Registry) : registry.LeavesNoTrace registry := rfl

/-- A pool is reported alike by two registries that only the stores could tell apart. -/
theorem LeavesNoTrace.statistics_of (h : registry.LeavesNoTrace later) (pool : String × Engine) :
    later.statisticsOf tenants pool = registry.statisticsOf tenants pool := by
  rw [h]
  rfl

/-- An engine is refused for the name of the tenant, or because it cannot be set up. Either way the
registry stays as it is. -/
theorem engine_failed (hpools : 0 ≤ tenants.maxPools)
    (h : engine tenants tenant registry = (.error failure, later)) :
    ((∃ defect, databaseName tenant = .error defect ∧ failure = .report (.tenant defect)) ∨
        ∃ database fault, databaseName tenant = .ok database ∧ failure = .store fault ∧
          (registry.backend.setUp tenants.stores database).1 = .error fault) ∧
      registry.LeavesNoTrace later := by
  unfold engine at h
  split at h
  next defect hname =>
    cases h
    exact ⟨.inl ⟨defect, hname, rfl⟩, .refl registry⟩
  next database hname =>
    unfold engineOf at h
    split at h
    · cases h
    split at h
    next fault backend hset =>
      cases h
      refine ⟨.inr ⟨database, fault, hname, rfl, by rw [hset]⟩, ?_⟩
      unfold LeavesNoTrace
      rw [← Backend.set_up_failed hset]
    next engine backend hset =>
      rw [evict_eq _ hpools] at h
      cases h

/-- A connection is refused with the engine, or after it. Either way the registry is left as asking
for the engine leaves it. -/
theorem acquire_failed (h : acquire tenants tenant registry = (.error failure, later)) :
    (engine tenants tenant registry).2.LeavesNoTrace later := by
  rcases acquire_failed_cases h with
    hfailed | ⟨_, engine, middle, fault, backend, -, hopened, hconnect, -, rfl⟩
  · rw [hfailed]
    exact .refl later
  · rw [hopened]
    unfold LeavesNoTrace
    rw [← Backend.connect_failed hconnect]

/-! ### Pools that survive -/

/-- Asking for an engine keeps pools as they are and adds one at most, for a name without a pool. -/
theorem engine_pools (hpools : 0 ≤ tenants.maxPools) (hbalanced : registry.Balanced)
    {pool : String × Engine} (hpool : pool ∈ (engine tenants tenant registry).2.pools) :
    pool ∈ registry.pools ∨ pool.1 ∉ keys registry.pools := by
  cases hname : databaseName tenant with
  | error defect =>
      simp only [engine, hname] at hpool
      exact .inl hpool
  | ok database =>
      rw [engine_eq tenants registry hname] at hpool
      rcases registry.engine_of_cases hpools database with
        ⟨engine, hfound, hresult⟩ | ⟨-, fault, backend, -, -, hresult⟩ |
          ⟨hnew, engine, backend, rfl, -, hresult⟩
      · rw [hresult] at hpool
        exact .inl ((touch_perm hbalanced.keys hfound).mem_iff.1 hpool)
      · rw [hresult] at hpool
        exact .inl hpool
      · rw [hresult, evict_pools hpools] at hpool
        rcases List.mem_append.1 (List.mem_of_mem_drop hpool) with hold | hadded
        · exact .inl hold
        · rw [List.mem_singleton.1 hadded]
          exact .inr (lookup_eq_none_iff.1 hnew)

/-- Asking for an engine keeps statistics as they are, and adds none but those of a pool that has
not been used yet. -/
theorem engine_usage (hpools : 0 ≤ tenants.maxPools) {entry : String × Usage}
    (hentry : entry ∈ (engine tenants tenant registry).2.usage) :
    entry ∈ registry.usage ∨ entry.1 ∉ keys registry.pools ∧
      entry.2 = ⟨0, registry.backend.clock, none⟩ := by
  cases hname : databaseName tenant with
  | error defect =>
      simp only [engine, hname] at hentry
      exact .inl hentry
  | ok database =>
      rw [engine_eq tenants registry hname] at hentry
      rcases registry.engine_of_cases hpools database with
        ⟨engine, -, hresult⟩ | ⟨-, fault, backend, -, -, hresult⟩ |
          ⟨hnew, engine, backend, rfl, hcreates, hresult⟩
      · rw [hresult] at hentry
        exact .inl hentry
      · rw [hresult] at hentry
        exact .inl hentry
      · rw [hresult, evict_usage hpools] at hentry
        rcases List.mem_append.1 (List.mem_of_mem_filter hentry) with hold | hadded
        · exact .inl (List.mem_of_mem_filter hold)
        · rw [List.mem_singleton.1 hadded]
          refine .inr ⟨lookup_eq_none_iff.1 hnew, ?_⟩
          dsimp only
          rw [hcreates.clock]

/-- After an engine has been asked for, each pool is reported as before if it was there before, and
otherwise as one that has not been used. -/
theorem engine_statistics (hpools : 0 ≤ tenants.maxPools) {calls : List Call}
    (hrun : Run tenants {} calls registry) {pool : String × Engine}
    (hpool : pool ∈ (engine tenants tenant registry).2.pools) :
    (pool ∈ registry.pools → (engine tenants tenant registry).2.statisticsOf tenants pool =
        registry.statisticsOf tenants pool) ∧
      (pool ∉ registry.pools →
        ((engine tenants tenant registry).2.statisticsOf tenants pool).acquisitions = 0 ∧
          ((engine tenants tenant registry).2.statisticsOf tenants pool).lastUsed = none) := by
  obtain ⟨hbefore, -⟩ := hrun.accounted hpools
  obtain ⟨hafter, -⟩ := (hrun.call (.engine tenant)).accounted hpools
  obtain ⟨usage, hlookup⟩ : ∃ usage,
      (engine tenants tenant registry).2.usage.lookup pool.1 = some usage := by
    cases hlookup : (engine tenants tenant registry).2.usage.lookup pool.1 with
    | none =>
        have hcounted := (hafter.names pool.1).2 (mem_keys_of_mem hpool)
        exact absurd hcounted (lookup_eq_none_iff.1 hlookup)
    | some usage => exact ⟨usage, rfl⟩
  have hentry := engine_usage hpools ((mem_iff_lookup hafter.keys).2 hlookup)
  constructor
  · intro hold
    have hsame : registry.usage.lookup pool.1 = some usage := by
      rcases hentry with hentry | ⟨hnone, -⟩
      · exact (mem_iff_lookup hbefore.keys).1 hentry
      · exact absurd (mem_keys_of_mem hold) hnone
    have hout := (registry.engine_still tenants tenant).checkedOut
    simp only [statisticsOf, Backend.outCount, hlookup, hsame, hout]
  · intro hnew
    have hfresh : usage = ⟨0, registry.backend.clock, none⟩ := by
      rcases hentry with hentry | ⟨-, hfresh⟩
      · -- A name with statistics has a pool, and then no other pool is added for it.
        have hname := (hbefore.names pool.1).1 (mem_keys_of_mem hentry)
        rcases engine_pools hpools hbefore.balanced hpool with hold | hnone
        · exact absurd hold hnew
        · exact absurd hname hnone
      · exact hfresh
    simp only [statisticsOf, hlookup, hfresh]
    exact ⟨rfl, rfl⟩

end Registry

variable {tenants : Tenants} {registry : Registry}

/-- An engine is refused for the name of the tenant or because it cannot be set up, and then nothing
has happened: no pool has made room for it. If a connection is refused, also at the beginning of a
scope, nothing has happened but that the engine was asked for: the same connections are out, the
pools that are left are reported as before, and one that has been set up is reported as unused. -/
theorem failed_calls_leave_no_trace (hpools : 0 ≤ tenants.maxPools) {calls : List Call}
    (hrun : Run tenants {} calls registry) (tenant : String) :
    (∀ failure later, Registry.engine tenants tenant registry = (.error failure, later) →
      ((∃ defect, databaseName tenant = .error defect ∧ failure = .report (.tenant defect)) ∨
          ∃ database fault, databaseName tenant = .ok database ∧ failure = .store fault ∧
            (registry.backend.setUp tenants.stores database).1 = .error fault) ∧
        registry.LeavesNoTrace later) ∧
      ∀ failure later, Registry.acquire tenants tenant registry = (.error failure, later) →
        (∀ (α : Type) (use : Connection → Registry.Operation α),
          Registry.withConnection tenants tenant use registry = (.error failure, later)) ∧
          (Registry.engine tenants tenant registry).2.LeavesNoTrace later ∧
          later.backend.checkedOut = registry.backend.checkedOut ∧
          ∀ pool ∈ later.pools,
            (pool ∈ registry.pools →
              later.statisticsOf tenants pool = registry.statisticsOf tenants pool) ∧
            (pool ∉ registry.pools → (later.statisticsOf tenants pool).acquisitions = 0 ∧
              (later.statisticsOf tenants pool).lastUsed = none) := by
  refine ⟨fun failure later hfailed ↦ Registry.engine_failed hpools hfailed,
    fun failure later hfailed ↦ ?_⟩
  have htrace := Registry.acquire_failed hfailed
  refine ⟨fun α use ↦ Registry.with_connection_of_refused hfailed, htrace, ?_, fun pool hpool ↦ ?_⟩
  · rw [htrace]
    exact (registry.engine_still tenants tenant).checkedOut
  · rw [htrace.statistics_of]
    rw [htrace] at hpool
    exact Registry.engine_statistics hpools hrun hpool

/-- A connection to a database that cannot be reached costs another database the only pool, but no
connection is counted. A database for which no engine can be set up costs nobody a pool. -/
theorem unreachable_tenant_uncounted :
    let stores : Stores := fun name ↦
      if name = "north" then { connect := fun _ ↦ some ⟨.driver, "down"⟩ }
      else if name = "west" then { setUp := fun _ ↦ some ⟨.other, "broken"⟩ }
      else {}
    let tenants : Tenants := { stores, maxPools := 1 }
    let registry := performAll tenants [.acquire "south"] {}
    let refused := (Registry.engine tenants "west" registry).2
    let later := (Registry.acquire tenants " north " registry).2
    registry.LeavesNoTrace refused ∧
      later.pools = [("north", ⟨2, "north"⟩)] ∧
      later.backend.checkedOut = [⟨1, ⟨1, "south"⟩⟩] ∧
      (later.statisticsOf tenants ("north", ⟨2, "north"⟩)).acquisitions = 0 := by
  intro stores tenants registry refused later
  have hrun : Run tenants {} [.acquire "south"] registry := .perform_all tenants _ {}
  have hengine : Registry.engine tenants "west" registry =
      (.error (.store ⟨.other, "broken"⟩), refused) := rfl
  have hacquire : Registry.acquire tenants " north " registry =
      (.error (.report (.unreachable "north" "down")), later) := rfl
  have hpools : later.pools = [("north", ⟨2, "north"⟩)] := by decide
  obtain ⟨hfailed, -⟩ := failed_calls_leave_no_trace (by decide) hrun "west"
  obtain ⟨-, hunreachable⟩ := failed_calls_leave_no_trace (by decide) hrun " north "
  obtain ⟨-, -, hout, hcounts⟩ := hunreachable _ _ hacquire
  obtain ⟨-, hnew⟩ := hcounts ("north", ⟨2, "north"⟩) (by simp [hpools])
  exact ⟨(hfailed _ _ hengine).2, hpools, hout.trans (by decide), (hnew (by decide)).1⟩

end TenantReporting.Tenancy
