import TenantReporting.Proofs.Tenancy.Accounts
import TenantReporting.Proofs.Tenancy.Recency
import TenantReporting.Proofs.Tenancy.Visits

/-!
# The names that pools are known by

Asking for an engine reads the name of a database from the tenant's identification. Looking for a
pool, listing it and disposing of it read nothing: they take the text as it is. So the registry
answers for the engine that it has just handed out if it is asked under the name of the database,
and under every other spelling of the tenant it knows nothing of it (`pools_known_by_database`).
-/

namespace TenantReporting.Tenancy

open Query (databaseName)

namespace Registry

/-! ### Answers -/

/-- Asked under a name, the registry answers for one of its engines: there is a pool, it is the only
one that is listed, and disposing of it disposes of the engine, which then is in no pool and in no
statistics, while the other pools stay as they were. -/
structure AnswersFor (tenants : Tenants) (engine : Engine) (asked : String)
    (registry : Registry) : Prop where
  registered : (engine.database, engine) ∈ registry.pools
  found : registry.hasPool asked = true
  listed : registry.statistics tenants (some asked) =
    [registry.statisticsOf tenants (engine.database, engine)]
  disposes : (registry.dispose asked).1 = true
  disposed : (registry.dispose asked).2.backend.disposed = registry.backend.disposed ++ [engine]
  removed : (registry.dispose asked).2.pools = registry.pools.filter fun pool ↦ pool.2 != engine
  uncounted : engine.database ∉ keys (registry.dispose asked).2.usage
  unlisted : (registry.dispose asked).2.statistics tenants none =
    (registry.statistics tenants none).filter fun pool ↦ pool.database != engine.database

/-- Asked under a name, the registry has no pool to tell of or to dispose of. -/
structure KnowsNothingOf (tenants : Tenants) (asked : String) (registry : Registry) : Prop where
  notFound : registry.hasPool asked = false
  notListed : registry.statistics tenants (some asked) = []
  keeps : registry.dispose asked = (false, registry)

section Entries

variable {α : Type} {entries : List (String × α)}

/-- Leaving an entry out hides no other one. -/
theorem lookup_without {database name : String} (h : name ≠ database) :
    (without database entries).lookup name = entries.lookup name := by
  induction entries with
  | nil => rfl
  | cons entry entries ih =>
      by_cases hkey : entry.1 = database
      · rw [without, List.filter_cons_of_neg (by simpa using hkey), ← without, ih,
          List.lookup_cons, beq_false_of_ne (hkey ▸ h)]
      · rw [without, List.filter_cons_of_pos (by simpa using hkey), ← without, List.lookup_cons,
          List.lookup_cons, ih]

/-- With different keys, the entries with one key are the one that is found. -/
theorem filter_key (hkeys : (keys entries).Nodup) (name : String) :
    (entries.filter fun entry ↦ entry.1 == name) =
      (entries.lookup name).toList.map (Prod.mk name) := by
  induction entries with
  | nil => rfl
  | cons entry entries ih =>
      obtain ⟨hfresh, hkeys⟩ := List.nodup_cons.1 hkeys
      rw [List.lookup_cons]
      by_cases hkey : entry.1 = name
      · have hrest : entries.lookup name = none := lookup_eq_none_iff.2 (hkey ▸ hfresh)
        rw [List.filter_cons_of_pos (by simpa using hkey), ih hkeys, hrest, hkey, beq_self_eq_true]
        simp [← hkey]
      · rw [List.filter_cons_of_neg (by simpa using hkey), ih hkeys, beq_false_of_ne (Ne.symm hkey)]

end Entries

variable {tenants : Tenants} {registry : Registry}

/-- Only the pool of the name is listed. -/
theorem statistics_of_name (hkeys : (keys registry.pools).Nodup) (name : String) :
    registry.statistics tenants (some name) =
      (registry.pools.lookup name).toList.map fun engine ↦
        registry.statisticsOf tenants (name, engine) := by
  simp only [statistics, filter_key hkeys, List.map_map]
  rfl

/-- Disposing of a pool takes it from the statistics and keeps those of the others. -/
theorem statistics_dispose (tenants : Tenants) (registry : Registry) (database : String) :
    (registry.dispose database).2.statistics tenants none =
      (registry.statistics tenants none).filter fun pool ↦ pool.database != database := by
  simp only [statistics, dispose_pools, List.filter_true, List.filter_map]
  refine List.map_congr_left fun pool hpool ↦ ?_
  have hother : pool.1 ≠ database := by simpa using (List.mem_filter.1 hpool).2
  simp only [statisticsOf, dispose_usage, lookup_without hother, Backend.outCount,
    dispose_checked_out]

namespace Accounted

variable {entries : List Entry}

/-- The registry answers for every engine under the name of its database. -/
theorem answers_for (h : registry.Accounted entries) (tenants : Tenants) {engine : Engine}
    (hpool : (engine.database, engine) ∈ registry.pools) :
    registry.AnswersFor tenants engine engine.database := by
  have hlookup := (mem_iff_lookup h.balanced.keys).1 hpool
  exact {
    registered := hpool
    found := by rw [hasPool, hlookup, Option.isSome_some]
    listed := by
      rw [statistics_of_name h.balanced.keys, hlookup]
      rfl
    disposes := by simp only [dispose, hlookup]
    disposed := by
      simp only [dispose, hlookup]
      exact Backend.disposed_record _ _
    removed := by
      rw [dispose_pools, without]
      refine List.filter_congr fun other hother ↦ ?_
      -- Engines are registered under the names of their databases, which are different.
      have hname : other.1 = engine.database ↔ other.2 = engine := by
        constructor
        · intro heq
          have hfound := (mem_iff_lookup h.balanced.keys).1 hother
          rw [heq, hlookup] at hfound
          exact (Option.some.inj hfound).symm
        · rintro rfl
          exact (h.balanced.names other hother).1
      rw [Bool.eq_iff_iff, bne_iff_ne, bne_iff_ne, Ne, Ne, hname]
    uncounted := by
      rw [dispose_usage]
      exact not_mem_keys_without _ _
    unlisted := statistics_dispose tenants registry _ }

/-- The registry knows nothing of a name under which no pool is registered. -/
theorem knows_nothing_of (h : registry.Accounted entries) (tenants : Tenants) {asked : String}
    (hnone : asked ∉ Registry.keys registry.pools) : registry.KnowsNothingOf tenants asked := by
  have hlookup := lookup_eq_none_iff.2 hnone
  have huncounted : asked ∉ Registry.keys registry.usage := fun hmem ↦
    hnone ((h.names asked).1 hmem)
  exact {
    notFound := by rw [hasPool, hlookup, Option.isSome_none]
    notListed := by
      rw [statistics_of_name h.balanced.keys, hlookup]
      rfl
    keeps := by
      simp only [dispose, hlookup, without_eq_self hnone, without_eq_self huncounted] }

end Accounted

end Registry

/-! ### Engines that have just been handed out -/

/-- The tenant whose engine a call asks for. -/
def Call.asksFor? : Call → Option String
  | engine tenant | acquire tenant => some tenant
  | _ => none

variable {tenants : Tenants} {registry : Registry}

/-- The engine that is handed out is that of the database that the tenant stands for. -/
theorem Registry.database_of_engine {tenant : String} {out : Engine} (hnamed : registry.IsNamed)
    (h : (engine tenants tenant registry).1 = .ok out) :
    databaseName tenant = .ok out.database := by
  cases hname : databaseName tenant with
  | error defect =>
      simp only [engine, hname] at h
      cases h
  | ok database =>
      rw [engine_eq tenants registry hname] at h
      rw [engine_of_database hnamed h]

/-- The engine that a call returns is that of the database that the tenant stands for. -/
theorem Call.returned_database {call : Call} {tenant : String} {engine : Engine}
    (hnamed : registry.IsNamed) (hasks : call.asksFor? = some tenant)
    (hreturned : call.returned? tenants registry = some engine) :
    databaseName tenant = .ok engine.database := by
  cases call with
  | engine asked =>
      obtain rfl : asked = tenant := Option.some.inj hasks
      exact registry.database_of_engine hnamed (Outcome.to_option_eq_some_iff.1 hreturned)
  | acquire asked =>
      obtain rfl : asked = tenant := Option.some.inj hasks
      cases hname : databaseName asked with
      | error defect =>
        simp only [Call.returned?, Registry.acquire, hname] at hreturned
        cases hreturned
      | ok database =>
        rw [Call.returned?] at hreturned
        rcases registry.acquire_cases tenants hname with
          ⟨failure, middle, -, hresult⟩ | ⟨_, middle, hopened,
            ⟨fault, backend, -, -, hresult⟩ | ⟨connection, backend, rfl, -, hresult⟩⟩
        · rw [hresult] at hreturned
          cases hreturned
        · rw [hresult] at hreturned
          cases hreturned
        · rw [hresult] at hreturned
          obtain rfl : connection.engine = engine := Option.some.inj hreturned
          rw [← hname]
          exact registry.database_of_engine hnamed (by rw [hopened])
  | release | execute | describe | dispose | disposeAll | wait => cases hasks

/-- When a call has just returned the engine of a tenant, or a connection of it, then the tenant
stands for the database of this engine. Of all spellings that stand for this database, the registry
answers for the engine under the name of the database itself, and knows nothing of any other one,
not even of that which the call was made with. -/
theorem pools_known_by_database (hpools : 1 ≤ tenants.maxPools) {calls : List Call}
    (hrun : Run tenants {} calls registry) {call : Call} {tenant : String}
    (hasks : call.asksFor? = some tenant) {engine : Engine}
    (hreturned : call.returned? tenants registry = some engine) :
    let later := call.perform tenants registry
    databaseName tenant = .ok engine.database ∧
      ∀ spelling, databaseName spelling = .ok engine.database →
        (later.AnswersFor tenants engine spelling ↔ spelling = engine.database) ∧
          (later.KnowsNothingOf tenants spelling ↔ spelling ≠ engine.database) := by
  intro later
  have hbound : 0 ≤ tenants.maxPools := by omega
  obtain ⟨hbefore, hsize⟩ := hrun.accounted hbound
  obtain ⟨hafter, -⟩ := (hrun.call call).accounted hbound
  have hnamed : registry.IsNamed := fun pool hpool ↦ (hbefore.balanced.names pool hpool).1.symm
  have hkeeps : call.keepsPools = true := by
    cases call with
    | dispose | disposeAll => cases hasks
    | _ => rfl
  obtain ⟨_, -, hregistered⟩ := call.evicts hpools hbefore.balanced hsize hkeeps
  obtain ⟨pool, hpool, rfl⟩ := List.mem_map.1 (hregistered engine hreturned)
  have hname := (hafter.balanced.names pool hpool).1
  have hanswers : later.AnswersFor tenants pool.2 pool.2.database :=
    hafter.answers_for tenants (hname ▸ hpool)
  refine ⟨Call.returned_database hnamed hasks hreturned, fun spelling hspelling ↦ ?_⟩
  by_cases hsame : spelling = pool.2.database
  · subst hsame
    refine ⟨iff_of_true hanswers rfl, iff_of_false (fun hnothing ↦ ?_) (fun hne ↦ hne rfl)⟩
    exact Bool.noConfusion (hnothing.notFound.symm.trans hanswers.found)
  · have hnone : spelling ∉ Registry.keys later.pools := by
      -- What is registered is a name as it has been read, and reading it again changes nothing.
      intro hmem
      obtain ⟨other, hother, rfl⟩ := List.mem_map.1 hmem
      have hfixed := (hafter.balanced.names other hother).2
      exact hsame (Except.ok.inj (hfixed.symm.trans hspelling))
    have hnothing := hafter.knows_nothing_of tenants hnone
    refine ⟨iff_of_false (fun hanswered ↦ ?_) hsame, iff_of_true hnothing hsame⟩
    exact Bool.noConfusion (hnothing.notFound.symm.trans hanswered.found)

/-- A connection for a tenant that is spelled with blanks takes the only pool from another tenant.
The registry answers for its engine without the blanks, and with them it does not. -/
theorem spaced_tenant_unanswered :
    let tenants : Tenants := { maxPools := 1 }
    let later := performAll tenants [.engine "south", .acquire " north "] {}
    later.AnswersFor tenants ⟨2, "north"⟩ "north" ∧ later.KnowsNothingOf tenants " north " := by
  intro tenants later
  have hrun := Run.perform_all tenants [.engine "south"] {}
  have hasks : Call.asksFor? (.acquire " north ") = some " north " := rfl
  have hreturned : Call.returned? tenants (.acquire " north ")
      (performAll tenants [.engine "south"] {}) = some ⟨2, "north"⟩ := by decide
  obtain ⟨-, hspellings⟩ := pools_known_by_database (by decide) hrun hasks hreturned
  exact ⟨(hspellings "north" rfl).1.2 rfl, (hspellings " north " rfl).2.2 (by decide)⟩

/-- The engine of a tenant that is spelled with blanks has just been handed out, but under this
spelling there is no pool, none is listed and none can be disposed of. -/
theorem spaced_tenant_without_pool :
    let tenants : Tenants := {}
    let later := Call.perform tenants (.engine " south ") {}
    Call.returned? tenants (.engine " south ") {} = some ⟨1, "south"⟩ ∧
      later.hasPool " south " = false ∧ later.statistics tenants (some " south ") = [] ∧
      (later.dispose " south ").1 = false ∧ (later.dispose " south ").2.hasPool "south" = true := by
  decide

end TenantReporting.Tenancy
