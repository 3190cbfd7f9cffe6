import Mathlib.Data.List.Dedup
import TenantReporting.Proofs.Outcome
import TenantReporting.Proofs.Tenancy.Disposal

/-!
# The pools that are kept are the most recent ones

As long as no pool is disposed of on request, the registry is a cache with least recently used
eviction: its pools are those of the names that were served last, in the order of their last use
(`pools_are_recent`). The step behind this is the stack property of the recency order
(`rtake_recent_of_mem`, `rtake_recent_of_not_mem`): what is kept of it after another use depends
only on what was kept before.
-/

namespace TenantReporting.Tenancy

open Query (databaseName)

/-! ### Recency -/

section Recency

variable {α : Type} [DecidableEq α] {a : α} {order : List α}

/-- Another use moves a name to the end of the recency order. -/
theorem dedup_concat (uses : List α) (a : α) :
    (uses ++ [a]).dedup = uses.dedup.filter (· != a) ++ [a] := by
  induction uses with
  | nil => rfl
  | cons b uses ih =>
      rw [List.cons_append]
      by_cases hagain : b ∈ uses
      · rw [List.dedup_cons_of_mem (List.mem_append_left _ hagain),
          List.dedup_cons_of_mem hagain, ih]
      · rw [List.dedup_cons_of_notMem hagain]
        by_cases heq : b = a
        · have hmem : b ∈ uses ++ [a] := by simp [heq]
          rw [List.dedup_cons_of_mem hmem, ih, List.filter_cons_of_neg (by simp [heq])]
        · have hnot : b ∉ uses ++ [a] := by simp [hagain, heq]
          rw [List.dedup_cons_of_notMem hnot, ih, List.filter_cons_of_pos (by simpa using heq),
            List.cons_append]

theorem filter_ne_of_not_mem (h : a ∉ order) : order.filter (· != a) = order := by
  rw [List.filter_eq_self]
  intro b hb
  rw [bne_iff_ne]
  rintro rfl
  exact h hb

/-- Of a name that was kept, the use only moves it to the end of what was kept. -/
theorem rtake_recent_of_mem {count : Nat} (hnodup : order.Nodup)
    (h : a ∈ order.rtake (count + 1)) :
    (order.filter (· != a)).rtake count = (order.rtake (count + 1)).filter (· != a) := by
  induction order using List.reverseRecOn generalizing count with
  | nil => simp
  | append_singleton order b ih =>
      obtain ⟨hinit, _, hdisjoint⟩ := List.nodup_append.1 hnodup
      rw [List.rtake_concat_succ] at h ⊢
      rw [List.filter_append, List.filter_append]
      by_cases heq : b = a
      · subst heq
        have hfresh : b ∉ order := fun hmem ↦ hdisjoint b hmem b (List.mem_singleton_self b) rfl
        have hrest : b ∉ order.rtake count := fun hmem ↦ hfresh (List.mem_of_mem_drop hmem)
        rw [filter_ne_of_not_mem hfresh, filter_ne_of_not_mem hrest]
        simp
      · have hmem : a ∈ order.rtake count := by
          rcases List.mem_append.1 h with hmem | hmem
          · exact hmem
          · exact absurd (List.mem_singleton.1 hmem).symm heq
        have hlast : [b].filter (· != a) = [b] := by simp [heq]
        cases count with
        | zero => simp at hmem
        | succ count => rw [hlast, List.rtake_concat_succ, ih hinit hmem]

/-- A name that was not kept takes the place of the least recent one. -/
theorem rtake_recent_of_not_mem {count : Nat} (h : a ∉ order.rtake (count + 1)) :
    (order.filter (· != a)).rtake count = (order.rtake (count + 1)).rtake count := by
  induction order using List.reverseRecOn generalizing count with
  | nil => simp
  | append_singleton order b ih =>
      rw [List.rtake_concat_succ, List.mem_append, List.mem_singleton, not_or] at h
      have hlast : [b].filter (· != a) = [b] := by simp [Ne.symm h.2]
      rw [List.filter_append, hlast]
      cases count with
      | zero => simp
      | succ count =>
          rw [List.rtake_concat_succ, List.rtake_concat_succ, List.rtake_concat_succ, ih h.1]

end Recency

/-! ### Uses -/

/-- The database whose engine is handed out. -/
def Deed.served? : Deed → Option String
  | serve database => some database
  | _ => none

/-- The names that were served, in order, as often as they were. -/
def servedNames (entries : List Entry) : List String :=
  entries.filterMap fun entry ↦ entry.deed.served?

/-- The deed disposes of no pool on request. -/
def Deed.keepsPools : Deed → Bool
  | dispose _ | disposeAll => false
  | _ => true

/-- The call disposes of no pool on request. -/
def Call.keepsPools : Call → Bool
  | dispose _ | disposeAll => false
  | _ => true

/-- The engine that a call returns, or whose connection it returns. -/
def Call.returned? (tenants : Tenants) (call : Call) (registry : Registry) : Option Engine :=
  match call with
  | engine tenant => (Registry.engine tenants tenant registry).1.toOption
  | acquire tenant => (Registry.acquire tenants tenant registry).1.toOption.map (·.engine)
  | _ => none

variable {tenants : Tenants} {registry later : Registry}

/-- Only calls to dispose of pools do so. -/
theorem Call.deeds_keep_pools {call : Call} (h : call.keepsPools = true) (registry : Registry) :
    ∀ deed ∈ call.deeds tenants registry, deed.keepsPools = true := by
  have hengine (tenant : String) :
      ∀ deed ∈ engineDeeds tenants tenant registry, deed.keepsPools = true := by
    intro deed hdeed
    rcases List.mem_append.1 hdeed with hdeed | hdeed
    · obtain ⟨engine, _, rfl⟩ := List.mem_map.1 hdeed
      rfl
    · obtain ⟨database, _, rfl⟩ := List.mem_map.1 hdeed
      rfl
  intro deed hdeed
  cases call with
  | engine tenant => exact hengine tenant deed hdeed
  | acquire tenant =>
      rcases List.mem_append.1 hdeed with hdeed | hdeed
      · exact hengine tenant deed hdeed
      · unfold acquireDeeds at hdeed
        split at hdeed
        · rw [List.mem_singleton.1 hdeed]
          rfl
        · cases hdeed
  | release connection =>
      rw [List.mem_singleton.1 hdeed]
      rfl
  | dispose | disposeAll => cases h
  | execute | describe | wait => cases hdeed

/-- Calls that dispose of no pool have a history without such deeds. -/
theorem history_keeps_pools {calls : List Call} (h : ∀ call ∈ calls, call.keepsPools = true)
    (registry : Registry) :
    ∀ entry ∈ history tenants calls registry, entry.deed.keepsPools = true := by
  induction calls generalizing registry with
  | nil => exact fun entry hentry ↦ nomatch hentry
  | cons call calls ih =>
      obtain ⟨hcall, hcalls⟩ := List.forall_mem_cons.1 h
      intro entry hentry
      rcases List.mem_append.1 hentry with hentry | hentry
      · obtain ⟨deed, hdeed, rfl⟩ := List.mem_map.1 hentry
        exact Call.deeds_keep_pools hcall registry deed hdeed
      · exact ih hcalls _ entry hentry

/-- The pools of the registry are those of the names that were served last. -/
def Registry.Recent (maxPools : Int) (entries : List Entry) (registry : Registry) : Prop :=
  Registry.keys registry.pools = (servedNames entries).dedup.rtake maxPools.toNat

/-- Every change that disposes of no pool on request keeps the pools the most recent ones. -/
theorem Registry.Recent.change (hpools : 1 ≤ tenants.maxPools) {entries : List Entry}
    (h : registry.Recent tenants.maxPools entries) {deeds : List Deed}
    (hchange : Change tenants registry deeds later)
    (hdeeds : ∀ deed ∈ deeds, deed.keepsPools = true) :
    later.Recent tenants.maxPools (entries ++ registry.stamp deeds) := by
  obtain ⟨count, hcount⟩ : ∃ count, tenants.maxPools.toNat = count + 1 :=
    ⟨tenants.maxPools.toNat - 1, by omega⟩
  have hserved : servedNames (entries ++ registry.stamp deeds) =
      servedNames entries ++ deeds.filterMap Deed.served? := by
    simp only [servedNames, stamp, List.filterMap_append, List.filterMap_map]
    rfl
  unfold Recent at h ⊢
  rw [hserved]
  rw [hcount] at h ⊢
  cases hchange with
  | quiet hquiet => simpa using h
  | @touch database engine hpool =>
      -- The name was kept, so it only moves to the end.
      have hmem : database ∈ (servedNames entries).dedup.rtake (count + 1) := by
        rw [← h]
        by_contra hnot
        rw [lookup_eq_none_iff.2 hnot] at hpool
        cases hpool
      show _ = ((servedNames entries ++ [database]).dedup).rtake (count + 1)
      rw [dedup_concat, List.rtake_concat_succ, rtake_recent_of_mem (List.nodup_dedup _) hmem, ← h,
        ← keys_without, keys_append]
      rfl
  | @establish engine backend hname hnew hcreates =>
      -- The name was not kept, so the least recent name makes room for it.
      have hnot : engine.database ∉ (servedNames entries).dedup.rtake (count + 1) := by
        rw [← h]
        exact lookup_eq_none_iff.1 hnew
      show _ = ((servedNames entries ++ [engine.database]).dedup).rtake (count + 1)
      rw [evict_pools (by omega), hcount, dedup_concat, List.rtake_concat_succ,
        rtake_recent_of_not_mem hnot, ← h, ← keys_rtake]
      unfold register
      rw [List.rtake_concat_succ, keys_append]
      rfl
  | grant hconnects =>
      show keys registry.pools = (servedNames entries ++ []).dedup.rtake _
      rw [List.append_nil, h]
  | release connection =>
      show keys (registry.release connection).pools = (servedNames entries ++ []).dedup.rtake _
      rw [List.append_nil, ← h]
      unfold release
      split <;> rfl
  | dispose | disposeAll => simp [Deed.keepsPools] at hdeeds

/-- The pools are the most recent ones after every run that disposes of none on request. -/
theorem Run.recent (hpools : 1 ≤ tenants.maxPools) {calls : List Call}
    (hrun : Run tenants {} calls registry) (hcalls : ∀ call ∈ calls, call.keepsPools = true) :
    registry.Recent tenants.maxPools (history tenants calls {}) := by
  refine hrun.invariant (fun entries registry ↦ (∀ entry ∈ entries, entry.deed.keepsPools = true) →
    registry.Recent tenants.maxPools entries) (by omega) ?_ ?_ (history_keeps_pools hcalls {})
  · intro before registry deeds later h hchange hentries
    refine (h fun entry hentry ↦ hentries entry (List.mem_append_left _ hentry)).change hpools
      hchange fun deed hdeed ↦ ?_
    exact hentries ⟨_, deed⟩ (List.mem_append_right _ (List.mem_map_of_mem hdeed))
  · intro _
    simp [Registry.Recent, servedNames]

/-! ### Eviction -/

namespace Registry

/-- At most one pool is evicted, whose engine is disposed of, and the others are kept. -/
structure Evicts (registry : Registry) (evicted : List Engine) (later : Registry) : Prop where
  atMostOne : evicted.length ≤ 1
  disposed : later.backend.disposed = registry.backend.disposed ++ evicted
  kept : ∀ pool ∈ registry.pools, pool ∈ later.pools ∨ pool.2 ∈ evicted

/-- Where pools stay and no engine is disposed of, none is evicted. -/
theorem Evicts.none (hpools : ∀ pool ∈ registry.pools, pool ∈ later.pools)
    (hdisposed : later.backend.disposed = registry.backend.disposed) :
    registry.Evicts [] later where
  atMostOne := Nat.zero_le 1
  disposed := by rw [hdisposed, List.append_nil]
  kept pool hpool := .inl (hpools pool hpool)

/-- Asking for an engine evicts at most one pool, and the engine that is handed out is
registered. -/
theorem engine_evicts (hpools : 1 ≤ tenants.maxPools) (hbalanced : registry.Balanced)
    (hsize : registry.pools.length ≤ tenants.maxPools.toNat) (tenant : String) :
    ∃ evicted, registry.Evicts evicted (engine tenants tenant registry).2 ∧
      ∀ out, (engine tenants tenant registry).1 = .ok out →
        out ∈ (engine tenants tenant registry).2.pools.map Prod.snd := by
  cases hname : databaseName tenant with
  | error defect =>
      simp only [engine, hname]
      exact ⟨[], .none (fun _ hpool ↦ hpool) rfl, fun out hout ↦ by cases hout⟩
  | ok database =>
      rw [engine_eq tenants registry hname]
      have hbound : 0 ≤ tenants.maxPools := by omega
      rcases registry.engine_of_cases hbound database with
        ⟨engine, hpool, hresult⟩ | ⟨_, fault, backend, hquiet, _, hresult⟩ |
          ⟨hnew, engine, backend, rfl, hcreates, hresult⟩
      · rw [hresult]
        refine ⟨[], .none ?_ rfl, ?_⟩
        · exact fun pool ↦ (touch_perm hbalanced.keys hpool).mem_iff.2
        · rintro out ⟨⟩
          simp
      · rw [hresult]
        exact ⟨[], .none (fun _ hpool ↦ hpool) hquiet.disposed, fun out hout ↦ by cases hout⟩
      · rw [hresult]
        obtain ⟨count, hcount⟩ : ∃ count, tenants.maxPools.toNat = count + 1 :=
          ⟨tenants.maxPools.toNat - 1, by omega⟩
        -- The new pool is the most recent one, so what is evicted was there before.
        refine ⟨(registry.pools.rdrop count).map Prod.snd, ⟨?_, ?_, ?_⟩, ?_⟩
        · rw [List.length_map, List.rdrop, List.length_take]
          omega
        · rw [evict_disposed hbound, hcount, register, List.rdrop_concat_succ, hcreates.disposed]
        · intro pool hpool
          rw [evict_pools hbound, hcount, register, List.rtake_concat_succ]
          rw [← rdrop_append_rtake registry.pools count] at hpool
          rcases List.mem_append.1 hpool with hgone | hleft
          · exact .inr (List.mem_map_of_mem hgone)
          · exact .inl (List.mem_append_left _ hleft)
        · rintro out ⟨⟩
          rw [evict_pools hbound, hcount, register, List.rtake_concat_succ]
          simp

end Registry

/-- What only acquires and returns connections keeps the pools. -/
theorem Changes.keep_pools {entries : List Entry} (h : Changes tenants registry entries later)
    (hserved : servedNames entries = [])
    (hkeeps : ∀ entry ∈ entries, entry.deed.keepsPools = true) :
    later.pools = registry.pools ∧ later.backend.disposed = registry.backend.disposed := by
  induction h with
  | none registry => exact ⟨rfl, rfl⟩
  | @next registry middle later deeds entries h _ ih =>
      rw [servedNames, List.filterMap_append, List.append_eq_nil_iff] at hserved
      obtain ⟨hdeeds, hentries⟩ := List.forall_mem_append.1 hkeeps
      obtain ⟨hpools, hdisposed⟩ := ih hserved.2 hentries
      rw [hpools, hdisposed]
      cases h with
      | quiet hquiet => exact ⟨rfl, hquiet.disposed⟩
      | touch | establish => simp [Registry.stamp, Deed.served?] at hserved
      | grant hconnects => exact ⟨rfl, hconnects.disposed⟩
      | release connection =>
          unfold Registry.release
          split
          · exact ⟨rfl, (Backend.disposed_record _ _).trans (List.append_nil _)⟩
          · exact ⟨rfl, rfl⟩
      | dispose | disposeAll => simp [Registry.stamp, Deed.keepsPools] at hdeeds

/-- A call that disposes of no pool on request evicts at most one, and the engine that it returns is
registered afterwards. -/
theorem Call.evicts (hpools : 1 ≤ tenants.maxPools) (hbalanced : registry.Balanced)
    (hsize : registry.pools.length ≤ tenants.maxPools.toNat) {call : Call}
    (hcall : call.keepsPools = true) :
    ∃ evicted, registry.Evicts evicted (call.perform tenants registry) ∧
      ∀ out, call.returned? tenants registry = some out →
        out ∈ (call.perform tenants registry).pools.map Prod.snd := by
  have hidle (hserved : servedNames (registry.stamp (call.deeds tenants registry)) = [])
      (hreturned : call.returned? tenants registry = none) :
      ∃ evicted, registry.Evicts evicted (call.perform tenants registry) ∧
        ∀ out, call.returned? tenants registry = some out →
          out ∈ (call.perform tenants registry).pools.map Prod.snd := by
    obtain ⟨hsame, hdisposed⟩ := (call.changes (by omega) registry).keep_pools hserved
      (List.forall_mem_map.2 (Call.deeds_keep_pools hcall registry))
    refine ⟨[], .none (fun pool hpool ↦ hsame ▸ hpool) hdisposed, fun out hout ↦ ?_⟩
    rw [hreturned] at hout
    cases hout
  cases call with
  | engine tenant =>
      obtain ⟨evicted, hevicts, hout⟩ := Registry.engine_evicts hpools hbalanced hsize tenant
      refine ⟨evicted, hevicts, fun out hreturned ↦ hout out ?_⟩
      exact Outcome.to_option_eq_some_iff.1 hreturned
  | acquire tenant =>
      obtain ⟨evicted, hevicts, hout⟩ := Registry.engine_evicts hpools hbalanced hsize tenant
      cases hname : databaseName tenant with
      | error defect =>
        simp only [Call.perform, Call.returned?, Registry.acquire, hname]
        exact ⟨[], .none (fun _ hpool ↦ hpool) rfl, fun _ hreturned ↦ by cases hreturned⟩
      | ok database =>
        rcases registry.acquire_cases tenants hname with
          ⟨failure, middle, hfailed, hresult⟩ | ⟨engine, middle, hopened,
            ⟨fault, backend, hquiet, _, hresult⟩ |
            ⟨connection, backend, hengine, hconnects, hresult⟩⟩
        · rw [hfailed] at hevicts
          rw [Call.perform, Call.returned?, hresult]
          exact ⟨evicted, hevicts, fun out hreturned ↦ by cases hreturned⟩
        · rw [hopened] at hevicts
          rw [Call.perform, Call.returned?, hresult]
          exact ⟨evicted, { hevicts with disposed := hquiet.disposed.trans hevicts.disposed },
            fun out hreturned ↦ by cases hreturned⟩
        · rw [hopened] at hevicts hout
          rw [Call.perform, Call.returned?, hresult]
          refine ⟨evicted, { hevicts with disposed := hconnects.disposed.trans hevicts.disposed },
            fun out hreturned ↦ ?_⟩
          obtain rfl : connection.engine = out := Option.some.inj hreturned
          exact hout _ (congrArg Except.ok hengine.symm)
  | release connection => exact hidle rfl rfl
  | execute connection text values => exact hidle rfl rfl
  | describe connection schema => exact hidle rfl rfl
  | dispose | disposeAll => cases hcall
  | wait ticks => exact hidle rfl rfl

/-! ### The registry as a cache -/

/-- In a run that disposes of no pool on request, the pools from the least to the most recently used
one are those of the last names that were served, as many as are kept, each where it was served for
the last time. So a further call evicts at most one pool, and not that of the engine it returns. -/
theorem pools_are_recent (hpools : 1 ≤ tenants.maxPools) {calls : List Call}
    (hrun : Run tenants {} calls registry) (hcalls : ∀ call ∈ calls, call.keepsPools = true) :
    Registry.keys registry.pools =
        (servedNames (history tenants calls {})).dedup.rtake tenants.maxPools.toNat ∧
      ∀ call : Call, call.keepsPools = true →
        ∃ evicted, registry.Evicts evicted (call.perform tenants registry) ∧
          ∀ engine, call.returned? tenants registry = some engine →
            (call.perform tenants registry).pools.lookup engine.database = some engine ∧
              engine ∉ evicted := by
  have hrecent := hrun.recent hpools hcalls
  refine ⟨hrecent, fun call hcall ↦ ?_⟩
  have hbound : 0 ≤ tenants.maxPools := by omega
  have hsize : registry.pools.length ≤ tenants.maxPools.toNat := by
    have hlength := congrArg List.length hrecent
    rw [Registry.keys, List.length_map, List.rtake, List.length_drop] at hlength
    omega
  obtain ⟨evicted, hevicts, hreturned⟩ := call.evicts hpools (hrun.balanced hbound) hsize hcall
  refine ⟨evicted, hevicts, fun engine hengine ↦ ?_⟩
  -- The call is the end of a longer run, so what it returns has not been disposed of.
  obtain ⟨pool, hpool, rfl⟩ := List.mem_map.1 (hreturned engine hengine)
  obtain ⟨hlookup, hcount⟩ := ((hrun.call call).balanced hbound).registered hpool
  refine ⟨(hlookup _).2 rfl, fun hmem ↦ List.count_eq_zero.1 hcount ?_⟩
  rw [hevicts.disposed]
  exact List.mem_append_right _ hmem

/-- A database that cannot be connected to keeps its place by the attempt, and the names that cannot
be served take none. -/
theorem unreachable_tenant_stays :
    let store : Store := { connect := fun _ ↦ some ⟨.driver, "down"⟩ }
    let tenants : Tenants := { stores := fun _ ↦ store, maxPools := 2 }
    let registry := performAll tenants
      [.engine "west", .engine " east", .acquire "west ", .engine "no name", .engine "south"] {}
    Registry.keys registry.pools = ["west", "south"] ∧
      ∃ evicted, registry.Evicts evicted (Call.perform tenants (.engine "east") registry) ∧
        (Call.perform tenants (.engine "east") registry).pools.lookup "east" = some ⟨4, "east"⟩ ∧
        ⟨4, "east"⟩ ∉ evicted := by
  intro store tenants registry
  have hrun := Run.perform_all tenants
    [.engine "west", .engine " east", .acquire "west ", .engine "no name", .engine "south"] {}
  obtain ⟨hkeys, hevicts⟩ := pools_are_recent (by decide) hrun (by decide)
  obtain ⟨evicted, hone, hreturned⟩ := hevicts (.engine "east") rfl
  refine ⟨hkeys.trans ?_, evicted, hone, hreturned ⟨4, "east"⟩ ?_⟩
  · have hserved : servedNames (history tenants [.engine "west", .engine " east", .acquire "west ",
        .engine "no name", .engine "south"] {}) = ["west", "east", "west", "south"] := by decide
    rw [hserved]
    rfl
  · decide

end TenantReporting.Tenancy
