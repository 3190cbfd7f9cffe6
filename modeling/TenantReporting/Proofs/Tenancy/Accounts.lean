import TenantReporting.Proofs.Tenancy.Disposal

/-!
# What the statistics say

The statistics of a pool can be told from the history of a run alone: when its engine was created,
which connections were acquired for its database since, and which of all connections have not been
returned (`account`). The registry keeps its pools and statistics under the same names, and it
reports for each pool what the history says (`statistics_told_by_history`).
-/

namespace TenantReporting.Tenancy

open Query (databaseName)

/-! ### Accounts from a history -/

/-- What happened after an engine was created. -/
def since (engine : Engine) : List Entry → List Entry
  | [] => []
  | entry :: entries => if entry.deed = .create engine then entries else since engine entries

/-- When an engine was created. -/
def creationTime? (engine : Engine) : List Entry → Option Int
  | [] => none
  | entry :: entries =>
    if entry.deed = .create engine then some entry.time else creationTime? engine entries

/-- When connections were acquired for a database. -/
def acquisitionTimes (database : String) (entries : List Entry) : List Int :=
  entries.filterMap fun entry ↦
    match entry.deed with
    | .acquire name _ => if name = database then some entry.time else none
    | _ => none

/-- The connections that are out after a deed. -/
def Deed.keepOut (out : List Connection) : Deed → List Connection
  | acquire _ connection => out ++ [connection]
  | release connection => out.filter fun other ↦ other != connection
  | _ => out

/-- The connections that were acquired and have not been released. -/
def outstanding (entries : List Entry) : List Connection :=
  entries.foldl (fun out entry ↦ entry.deed.keepOut out) []

/-- The statistics of a pool as a history tells them. -/
def account (tenants : Tenants) (entries : List Entry) (pool : String × Engine) : PoolStatistics :=
  let times := acquisitionTimes pool.1 (since pool.2 entries)
  { database := pool.1
    acquisitions := times.length
    createdAt := creationTime? pool.2 entries
    lastUsed := times.getLast?
    checkedOut :=
      if (tenants.stores pool.2.database).countsConnections then
        some ((outstanding entries).countP fun connection ↦ connection.engine == pool.2)
      else none }

/-- The engine that is created. -/
def Deed.created? : Deed → Option Engine
  | create engine => some engine
  | _ => none

section Histories

variable {engine : Engine} {entries more : List Entry}

/-- What happens later comes after the creation of an engine that has been created. -/
theorem since_append (h : creationTime? engine entries ≠ none) :
    since engine (entries ++ more) = since engine entries ++ more := by
  induction entries with
  | nil => exact absurd rfl h
  | cons entry entries ih =>
      rw [creationTime?] at h
      rw [List.cons_append, since, since]
      split
      · rfl
      next hother =>
        rw [if_neg hother] at h
        exact ih h

/-- The time of a creation stays the same. -/
theorem creation_time_append (h : creationTime? engine entries ≠ none) :
    creationTime? engine (entries ++ more) = creationTime? engine entries := by
  induction entries with
  | nil => exact absurd rfl h
  | cons entry entries ih =>
      rw [creationTime?] at h
      rw [List.cons_append, creationTime?, creationTime?]
      split
      · rfl
      next hother =>
        rw [if_neg hother] at h
        exact ih h

/-- What happened before a creation does not matter after it. -/
theorem since_fresh (h : ∀ entry ∈ entries, entry.deed ≠ .create engine) :
    since engine (entries ++ more) = since engine more := by
  induction entries with
  | nil => rfl
  | cons entry entries ih =>
      obtain ⟨hentry, hentries⟩ := List.forall_mem_cons.1 h
      rw [List.cons_append, since, if_neg hentry, ih hentries]

theorem creation_time_fresh (h : ∀ entry ∈ entries, entry.deed ≠ .create engine) :
    creationTime? engine (entries ++ more) = creationTime? engine more := by
  induction entries with
  | nil => rfl
  | cons entry entries ih =>
      obtain ⟨hentry, hentries⟩ := List.forall_mem_cons.1 h
      rw [List.cons_append, creationTime?, if_neg hentry, ih hentries]

theorem outstanding_append :
    outstanding (entries ++ more) =
      more.foldl (fun out entry ↦ entry.deed.keepOut out) (outstanding entries) :=
  List.foldl_append

end Histories

/-- The counters of a pool are those that the history tells for its engine. -/
structure Usage.Counts (engine : Engine) (entries : List Entry) (usage : Usage) : Prop where
  createdAt : creationTime? engine entries = some usage.createdAt
  acquisitions :
    usage.acquisitions = (acquisitionTimes engine.database (since engine entries)).length
  lastUsed : usage.lastUsed = (acquisitionTimes engine.database (since engine entries)).getLast?

namespace Usage.Counts

variable {engine : Engine} {entries : List Entry} {usage : Usage}

/-- The counters stay right while nothing is acquired for the database. -/
theorem append (h : usage.Counts engine entries) {more : List Entry}
    (hmore : acquisitionTimes engine.database more = []) :
    usage.Counts engine (entries ++ more) := by
  have hcreated : creationTime? engine entries ≠ none := by simp [h.createdAt]
  have htimes : acquisitionTimes engine.database (since engine (entries ++ more)) =
      acquisitionTimes engine.database (since engine entries) := by
    rw [since_append hcreated, acquisitionTimes, List.filterMap_append, ← acquisitionTimes,
      ← acquisitionTimes, hmore, List.append_nil]
  exact ⟨(creation_time_append hcreated).trans h.createdAt, htimes ▸ h.acquisitions,
    htimes ▸ h.lastUsed⟩

/-- An acquisition is counted, and it is the last one. -/
theorem acquire (h : usage.Counts engine entries) (time : Int) (connection : Connection) :
    { usage with acquisitions := usage.acquisitions + 1, lastUsed := some time : Usage }.Counts
      engine (entries ++ [⟨time, .acquire engine.database connection⟩]) := by
  have hcreated : creationTime? engine entries ≠ none := by simp [h.createdAt]
  have htimes : acquisitionTimes engine.database
      (since engine (entries ++ [⟨time, .acquire engine.database connection⟩])) =
        acquisitionTimes engine.database (since engine entries) ++ [time] := by
    rw [since_append hcreated, acquisitionTimes, List.filterMap_append, ← acquisitionTimes]
    simp
  refine ⟨(creation_time_append hcreated).trans h.createdAt, ?_, ?_⟩
  · rw [htimes, List.length_append, ← h.acquisitions]
    rfl
  · rw [htimes, List.getLast?_concat]

/-- The counters of an engine that has just been created start anew. -/
theorem create (hfresh : ∀ entry ∈ entries, entry.deed ≠ .create engine) (time : Int) :
    Counts engine (entries ++ [⟨time, .create engine⟩, ⟨time, .serve engine.database⟩])
      ⟨0, time, none⟩ := by
  have htimes : acquisitionTimes engine.database (since engine
      (entries ++ [⟨time, .create engine⟩, ⟨time, .serve engine.database⟩])) = [] := by
    rw [since_fresh hfresh, since, if_pos rfl]
    rfl
  refine ⟨?_, ?_, ?_⟩
  · rw [creation_time_fresh hfresh, creationTime?, if_pos rfl]
  · rw [htimes]
    rfl
  · rw [htimes]
    rfl

end Usage.Counts

/-! ### Accounts and the registry -/

/-- The registry agrees with a history: pools and statistics have the same names, the counters are
those that the history tells, and so are the connections that are out. -/
structure Registry.Accounted (entries : List Entry) (registry : Registry) : Prop where
  balanced : registry.Balanced
  keys : (Registry.keys registry.usage).Nodup
  names : ∀ name, name ∈ Registry.keys registry.usage ↔ name ∈ Registry.keys registry.pools
  created : entries.filterMap (fun entry ↦ entry.deed.created?) = registry.backend.created
  counts : ∀ pool ∈ registry.pools, ∀ usage, (pool.1, usage) ∈ registry.usage →
    usage.Counts pool.2 entries
  out : registry.backend.checkedOut = outstanding entries

namespace Registry.Accounted

variable {tenants : Tenants} {registry later : Registry} {entries : List Entry}

/-- A registry without pools agrees with an empty history. -/
theorem empty : Accounted [] {} where
  balanced := balanced_empty
  keys := List.nodup_nil
  names _ := Iff.rfl
  created := rfl
  counts _ hpool := nomatch hpool
  out := rfl

/-- The agreement is kept where no pool is added, nothing is created and nothing is acquired. -/
theorem shrink (h : registry.Accounted entries) {deeds : List Deed} (hbalanced : later.Balanced)
    (hpools : ∀ pool ∈ later.pools, pool ∈ registry.pools)
    (husage : later.usage.Sublist registry.usage)
    (hnames : ∀ name, name ∈ Registry.keys later.usage ↔ name ∈ Registry.keys later.pools)
    (hcreated : later.backend.created = registry.backend.created)
    (hdeeds : ∀ deed ∈ deeds, deed.created? = none ∧
      ∀ database connection, deed ≠ .acquire database connection)
    (hout : later.backend.checkedOut = deeds.foldl Deed.keepOut registry.backend.checkedOut) :
    later.Accounted (entries ++ registry.stamp deeds) where
  balanced := hbalanced
  keys := h.keys.sublist (husage.map Prod.fst)
  names := hnames
  created := by
    have hnone : (registry.stamp deeds).filterMap (fun entry ↦ entry.deed.created?) = [] := by
      rw [stamp, List.filterMap_map]
      exact List.filterMap_eq_nil_iff.2 fun deed hdeed ↦ (hdeeds deed hdeed).1
    rw [List.filterMap_append, hnone, List.append_nil, h.created, hcreated]
  counts pool hpool usage hmem := by
    refine (h.counts pool (hpools pool hpool) usage (husage.subset hmem)).append ?_
    refine List.filterMap_eq_nil_iff.2 fun entry hentry ↦ ?_
    obtain ⟨deed, hdeed, rfl⟩ := List.mem_map.1 hentry
    dsimp only
    split
    next database connection => exact absurd rfl ((hdeeds _ hdeed).2 database connection)
    next => rfl
  out := by
    rw [outstanding_append, stamp, List.foldl_map, ← h.out]
    exact hout

/-- Registering a new engine keeps the agreement. -/
theorem register (h : registry.Accounted entries) {engine : Engine} {backend : Backend}
    (hname : databaseName engine.database = .ok engine.database)
    (hnew : registry.pools.lookup engine.database = none)
    (hcreates : registry.backend.Creates engine backend) :
    ({ registry with backend }.register engine).Accounted
      (entries ++ registry.stamp [.create engine, .serve engine.database]) := by
  have hpool := lookup_eq_none_iff.1 hnew
  have hcounted : engine.database ∉ Registry.keys registry.usage := fun hmem ↦
    hpool ((h.names _).1 hmem)
  have husage : ({ registry with backend }.register engine).usage =
      registry.usage ++ [(engine.database, ⟨0, registry.backend.clock, none⟩)] := by
    rw [Registry.register, ← hcreates.clock]
    simp only [without_eq_self hcounted]
  exact {
    balanced := h.balanced.register hname hnew hcreates
    keys := by
      rw [husage]
      exact nodup_keys_concat h.keys hcounted _
    names := by
      intro name
      rw [husage, Registry.register, keys_append, keys_append, List.mem_append, List.mem_append,
        h.names]
      rfl
    created := by
      rw [List.filterMap_append, h.created]
      exact hcreates.created.symm
    counts := by
      intro pool hmem usage hused
      rw [husage] at hused
      rcases List.mem_append.1 hmem with hold | hnewest
      · rcases List.mem_append.1 hused with hused | hused
        · exact (h.counts pool hold usage hused).append rfl
        · have heq : pool.1 = engine.database := congrArg Prod.fst (List.mem_singleton.1 hused)
          exact absurd (mem_keys_of_mem hold) (heq ▸ hpool)
      · obtain rfl := List.mem_singleton.1 hnewest
        rcases List.mem_append.1 hused with hused | hused
        · exact absurd (mem_keys_of_mem hused) hcounted
        · obtain rfl : usage = ⟨0, registry.backend.clock, none⟩ :=
            congrArg Prod.snd (List.mem_singleton.1 hused)
          refine Usage.Counts.create (fun entry hentry hdeed ↦ h.balanced.fresh hcreates ?_) _
          rw [← h.created]
          exact List.mem_filterMap.2 ⟨entry, hentry, by rw [hdeed]; rfl⟩
    out := by
      rw [outstanding_append, ← h.out]
      exact hcreates.checkedOut }

/-- Evicting pools keeps the agreement. -/
theorem evict (h : registry.Accounted entries) {maxPools : Int} (hbound : 0 ≤ maxPools) :
    (evict maxPools registry).2.Accounted entries := by
  have hkept : (Registry.evict maxPools registry).2.Accounted (entries ++ registry.stamp []) := by
    refine h.shrink (h.balanced.evict hbound) ?_ ?_
      (evict_names hbound h.balanced.keys h.names) (evict_created _ _) ?_ (evict_checked_out _ _)
    · rw [evict_pools hbound]
      exact fun pool hpool ↦ List.mem_of_mem_drop hpool
    · rw [evict_usage hbound]
      exact List.filter_sublist
    · exact fun deed hdeed ↦ nomatch hdeed
  rwa [stamp, List.map_nil, List.append_nil] at hkept

/-- Counting an acquisition keeps the agreement. -/
theorem grant (h : registry.Accounted entries) {database : String} {connection : Connection}
    {backend : Backend} (hbalanced : (countUse database { registry with backend }).Balanced)
    (hconnects : registry.backend.Connects connection backend) :
    (countUse database { registry with backend }).Accounted
      (entries ++ registry.stamp [.acquire database connection]) := by
  have hkeys : Registry.keys (countUse database { registry with backend }).usage =
      Registry.keys registry.usage := by
    rw [countUse, Registry.keys, List.map_map]
    refine List.map_congr_left fun entry _ ↦ ?_
    dsimp only [Function.comp]
    split <;> rfl
  exact {
    balanced := hbalanced
    keys := hkeys ▸ h.keys
    names := fun name ↦ hkeys ▸ h.names name
    created := by
      rw [List.filterMap_append, h.created]
      exact (List.append_nil _).trans hconnects.created.symm
    counts := by
      intro pool hpool usage hused
      obtain ⟨⟨name, counted⟩, hentry, heq⟩ := List.mem_map.1 hused
      have hname := (h.balanced.names pool hpool).1
      by_cases hsame : name = database
      · rw [if_pos (beq_iff_eq.2 hsame)] at heq
        obtain ⟨rfl, rfl⟩ := Prod.mk.inj heq
        have hdatabase : database = pool.2.database := hsame.symm.trans hname
        rw [hdatabase, hconnects.clock]
        exact (h.counts pool hpool counted hentry).acquire _ connection
      · rw [if_neg (by simpa using hsame)] at heq
        obtain ⟨rfl, rfl⟩ := Prod.mk.inj heq
        refine (h.counts pool hpool counted hentry).append ?_
        have hother : ¬ database = pool.2.database := fun heq ↦ hsame (hname.trans heq.symm)
        simp [acquisitionTimes, stamp, hother]
    out := by
      rw [outstanding_append, ← h.out]
      exact hconnects.checkedOut }

/-- Every change keeps the agreement. -/
theorem change (hpools : 0 ≤ tenants.maxPools) (h : registry.Accounted entries) {deeds : List Deed}
    (hchange : Change tenants registry deeds later) :
    later.Accounted (entries ++ registry.stamp deeds) := by
  have hbalanced := h.balanced.change hpools hchange
  cases hchange with
  | quiet hquiet =>
      exact h.shrink hbalanced (fun _ hpool ↦ hpool) (.refl _) h.names hquiet.created
        (fun deed hdeed ↦ nomatch hdeed) hquiet.checkedOut
  | touch hpool =>
      have hperm := touch_perm h.balanced.keys hpool
      refine h.shrink hbalanced (fun pool ↦ hperm.mem_iff.1) (.refl _) (fun name ↦ ?_) rfl ?_ rfl
      · exact (h.names name).trans (hperm.map Prod.fst).mem_iff.symm
      · simp [Deed.created?]
  | establish hname hnew hcreates => exact (h.register hname hnew hcreates).evict hpools
  | grant hconnects => exact h.grant hbalanced hconnects
  | release connection =>
      unfold release at hbalanced ⊢
      split
      next hout =>
        rw [if_pos hout] at hbalanced
        refine h.shrink hbalanced (fun _ hpool ↦ hpool) (.refl _) h.names ?_ ?_ rfl
        · exact (Backend.created_record _ _).trans (List.append_nil _)
        · simp [Deed.created?]
      next hout =>
        -- Releasing a connection that is not out changes nothing, and nothing is left out.
        refine h.shrink h.balanced (fun _ hpool ↦ hpool) (.refl _) h.names rfl ?_ ?_
        · simp [Deed.created?]
        · refine (List.filter_eq_self.2 fun other hother ↦ ?_).symm
          rw [bne_iff_ne]
          rintro rfl
          exact hout (List.contains_iff_mem.2 hother)
  | dispose database =>
      refine h.shrink hbalanced ?_ ?_ ?_ (dispose_created _ _) ?_ (dispose_checked_out _ _)
      · rw [dispose_pools]
        exact fun pool hpool ↦ List.mem_of_mem_filter hpool
      · rw [dispose_usage]
        exact List.filter_sublist
      · intro name
        rw [dispose_pools, dispose_usage, keys_without, keys_without, List.mem_filter,
          List.mem_filter, h.names]
      · simp [Deed.created?]
  | disposeAll =>
      refine h.shrink hbalanced (fun pool hpool ↦ nomatch hpool) (List.nil_sublist _)
        (fun name ↦ Iff.rfl) (Backend.created_dispose_pools _ _) ?_ ?_
      · simp [Deed.created?]
      · simp only [Registry.disposeAll, Backend.dispose_pools_eq]
        rfl

end Registry.Accounted

namespace Registry

variable {tenants : Tenants} {registry later : Registry}

/-- Every change keeps the number of pools within the bound. -/
theorem size_change (hpools : 0 ≤ tenants.maxPools) (hbalanced : registry.Balanced)
    (h : registry.size ≤ tenants.maxPools.toNat) {deeds : List Deed}
    (hchange : Change tenants registry deeds later) : later.size ≤ tenants.maxPools.toNat := by
  unfold size at h ⊢
  cases hchange with
  | quiet | grant => exact h
  | touch hpool => exact (touch_perm hbalanced.keys hpool).length_eq.trans_le h
  | establish hname hnew hcreates =>
      rw [evict_pools hpools, List.rtake, List.length_drop]
      omega
  | release connection =>
      unfold release
      split <;> exact h
  | dispose database =>
      rw [dispose_pools]
      exact (List.length_filter_le ..).trans h
  | disposeAll => exact Nat.zero_le _

/-- The statistics that agree with a history are those that it tells. -/
theorem Accounted.statistics_of {entries : List Entry} (h : registry.Accounted entries)
    (tenants : Tenants) {pool : String × Engine} (hpool : pool ∈ registry.pools) :
    registry.statisticsOf tenants pool = account tenants entries pool ∧
      creationTime? pool.2 entries ≠ none := by
  have hcounted : pool.1 ∈ Registry.keys registry.usage := (h.names _).2 (mem_keys_of_mem hpool)
  obtain ⟨usage, hlookup⟩ : ∃ usage, registry.usage.lookup pool.1 = some usage := by
    cases hlookup : registry.usage.lookup pool.1 with
    | none => exact absurd hcounted (lookup_eq_none_iff.1 hlookup)
    | some usage => exact ⟨usage, rfl⟩
  obtain ⟨hcreated, hacquisitions, hlast⟩ :=
    h.counts pool hpool usage ((mem_iff_lookup h.keys).2 hlookup)
  rw [← (h.balanced.names pool hpool).1] at hacquisitions hlast
  refine ⟨?_, by simp [hcreated]⟩
  simp only [statisticsOf, account, hlookup, Option.map_some, Option.getD_some, Option.bind_some,
    Backend.outCount, h.out, hcreated, hacquisitions, hlast]

end Registry

variable {tenants : Tenants}

/-- Every run that begins without pools ends in agreement with its history. -/
theorem Run.accounted (hpools : 0 ≤ tenants.maxPools) {calls : List Call} {registry : Registry}
    (h : Run tenants {} calls registry) :
    registry.Accounted (history tenants calls {}) ∧ registry.size ≤ tenants.maxPools.toNat :=
  h.invariant
    (fun entries registry ↦ registry.Accounted entries ∧ registry.size ≤ tenants.maxPools.toNat)
    hpools
    (fun h hchange ↦
      ⟨h.1.change hpools hchange, Registry.size_change hpools h.1.balanced h.2 hchange⟩)
    ⟨.empty, Nat.zero_le _⟩

/-- Pools and statistics are kept under the same different names, each the name of a database, and
there are no more pools than allowed. For each pool, the registry reports when its engine was
created, how often a connection was acquired for its database since and when for the last time, and
how many connections of the engine are out, all as the history of the run tells. -/
theorem statistics_told_by_history (hpools : 0 ≤ tenants.maxPools) {calls : List Call}
    {registry : Registry} (hrun : Run tenants {} calls registry) :
    (Registry.keys registry.pools).Nodup ∧ (Registry.keys registry.usage).Nodup ∧
      (∀ name, name ∈ Registry.keys registry.usage ↔ name ∈ Registry.keys registry.pools) ∧
      (∀ name ∈ Registry.keys registry.pools, databaseName name = .ok name) ∧
      (registry.size : Int) ≤ tenants.maxPools ∧
      ∀ pool ∈ registry.pools,
        registry.statisticsOf tenants pool = account tenants (history tenants calls {}) pool ∧
          creationTime? pool.2 (history tenants calls {}) ≠ none ∧
          ((registry.statisticsOf tenants pool).lastUsed = none ↔
            (registry.statisticsOf tenants pool).acquisitions = 0) := by
  obtain ⟨haccounted, hsize⟩ := hrun.accounted hpools
  refine ⟨haccounted.balanced.keys, haccounted.keys, haccounted.names, ?_, by omega, ?_⟩
  · intro name hname
    obtain ⟨pool, hpool, rfl⟩ := List.mem_map.1 hname
    exact (haccounted.balanced.names pool hpool).2
  · intro pool hpool
    obtain ⟨hstatistics, hcreated⟩ := haccounted.statistics_of tenants hpool
    refine ⟨hstatistics, hcreated, ?_⟩
    rw [hstatistics]
    simp [account]

/-- A connection of an engine that was evicted does not count for the one that took its place. -/
theorem replaced_engine_statistics :
    let tenants : Tenants := { maxPools := 1 }
    let registry := performAll tenants
      [.acquire "south", .wait 5, .engine "north", .wait 2, .acquire " south",
        .release ⟨1, ⟨1, "south"⟩⟩, .wait 1, .acquire "south"] {}
    registry.statisticsOf tenants ("south", ⟨3, "south"⟩) =
      { database := "south", acquisitions := 2, createdAt := some 7, lastUsed := some 8,
        checkedOut := some 2 } := by
  intro tenants registry
  have hrun := Run.perform_all tenants
    [.acquire "south", .wait 5, .engine "north", .wait 2, .acquire " south",
      .release ⟨1, ⟨1, "south"⟩⟩, .wait 1, .acquire "south"] {}
  obtain ⟨_, _, _, _, _, hpools⟩ := statistics_told_by_history (by decide) hrun
  obtain ⟨hstatistics, _⟩ := hpools ("south", ⟨3, "south"⟩) (by decide)
  rw [hstatistics]
  decide

end TenantReporting.Tenancy
