import Mathlib.Data.List.DropRight
import Mathlib.Data.List.Nodup
import TenantReporting.Proofs.Tenancy.Runs

/-!
# The pools of a registry

Pools and statistics are lists of entries with different keys. What looking an entry up, leaving it
out and evicting others do to such lists is said here once.
-/

namespace TenantReporting.Tenancy.Registry

variable {α : Type} {database : String} {entries : List (String × α)}

/-- The keys of some entries. -/
def keys (entries : List (String × α)) : List String :=
  entries.map Prod.fst

@[simp] theorem keys_nil : keys ([] : List (String × α)) = [] := rfl

@[simp] theorem keys_cons (entry : String × α) (entries : List (String × α)) :
    keys (entry :: entries) = entry.1 :: keys entries := rfl

@[simp] theorem keys_append (first second : List (String × α)) :
    keys (first ++ second) = keys first ++ keys second :=
  List.map_append

theorem keys_rtake (entries : List (String × α)) (count : Nat) :
    keys (entries.rtake count) = (keys entries).rtake count := by
  simp only [keys, List.rtake, List.map_drop, List.length_map]

theorem mem_keys_of_mem {entry : String × α} (h : entry ∈ entries) : entry.1 ∈ keys entries :=
  List.mem_map_of_mem h

/-- An entry with a new key keeps the keys different. -/
theorem nodup_keys_concat (hkeys : (keys entries).Nodup) (hfresh : database ∉ keys entries)
    (value : α) : (keys (entries ++ [(database, value)])).Nodup := by
  rw [keys_append]
  refine List.nodup_append.2 ⟨hkeys, List.nodup_singleton _, fun name hname other hother ↦ ?_⟩
  rintro rfl
  rw [List.mem_singleton.1 hother] at hname
  exact hfresh hname

/-- Choosing entries by their keys chooses the keys. -/
theorem keys_filter (wanted : String → Bool) (entries : List (String × α)) :
    keys (entries.filter fun entry ↦ wanted entry.1) = (keys entries).filter wanted := by
  rw [keys, keys, List.filter_map]
  rfl

/-- Leaving an entry out leaves its key out. -/
theorem keys_without (database : String) (entries : List (String × α)) :
    keys (without database entries) = (keys entries).filter (· != database) :=
  keys_filter (· != database) entries

/-- The key of an entry that is left out is gone. -/
theorem not_mem_keys_without (database : String) (entries : List (String × α)) :
    database ∉ keys (without database entries) := by
  rw [keys_without]
  intro hmem
  have hne := (List.mem_filter.1 hmem).2
  simp at hne

/-- Nothing is found where the key is missing. -/
theorem lookup_eq_none_iff : entries.lookup database = none ↔ database ∉ keys entries := by
  induction entries with
  | nil => simp
  | cons entry entries ih =>
      rw [List.lookup_cons, keys_cons, List.mem_cons, not_or]
      cases hkey : database == entry.1 with
      | true => simp [beq_iff_eq.1 hkey]
      | false => simp [ih, beq_eq_false_iff_ne.1 hkey]

/-- Nothing changes if there is nothing to leave out. -/
theorem without_eq_self (h : database ∉ keys entries) : without database entries = entries := by
  rw [without, List.filter_eq_self]
  intro entry hentry
  rw [bne_iff_ne]
  rintro rfl
  exact h (mem_keys_of_mem hentry)

/-- With different keys, an entry that is found is one entry, and the others are what is left
without its key. -/
theorem perm_without {value : α} (hkeys : (keys entries).Nodup)
    (h : entries.lookup database = some value) :
    entries.Perm ((database, value) :: without database entries) := by
  induction entries with
  | nil => cases h
  | cons entry entries ih =>
      obtain ⟨hfresh, hkeys⟩ := List.nodup_cons.1 hkeys
      rw [List.lookup_cons] at h
      cases hkey : database == entry.1 with
      | true =>
          rw [hkey] at h
          obtain rfl : database = entry.1 := beq_iff_eq.1 hkey
          obtain rfl : entry.2 = value := Option.some.inj h
          have hrest : without entry.1 (entry :: entries) = entries := by
            rw [without, List.filter_cons_of_neg (by simp), ← without, without_eq_self hfresh]
          rw [hrest]
      | false =>
          rw [hkey] at h
          have hne : entry.1 ≠ database := fun heq ↦ by simp [heq] at hkey
          have hrest : without database (entry :: entries) = entry :: without database entries := by
            rw [without, List.filter_cons_of_pos (by simpa using hne), ← without]
          rw [hrest]
          exact ((ih hkeys h).cons entry).trans (List.Perm.swap ..)

/-- With different keys, the entries are those that are found. -/
theorem mem_iff_lookup (hkeys : (keys entries).Nodup) {value : α} :
    (database, value) ∈ entries ↔ entries.lookup database = some value := by
  constructor
  · intro hmem
    cases h : entries.lookup database with
    | none => exact absurd (mem_keys_of_mem hmem) (lookup_eq_none_iff.1 h)
    | some other =>
        rcases List.mem_cons.1 ((perm_without hkeys h).mem_iff.1 hmem) with heq | hrest
        · rw [(Prod.mk.inj heq).2]
        · exact absurd (mem_keys_of_mem hrest) (not_mem_keys_without _ _)
  · intro h
    exact (perm_without hkeys h).mem_iff.2 List.mem_cons_self

/-- Making an entry the last one keeps the entries. -/
theorem touch_perm {value : α} (hkeys : (keys entries).Nodup)
    (h : entries.lookup database = some value) :
    (without database entries ++ [(database, value)]).Perm entries :=
  (List.perm_append_singleton ..).trans (perm_without hkeys h).symm

/-! ### Eviction -/

variable {registry : Registry} {maxPools : Int}

/-- What is evicted and what is left are all pools. -/
theorem rdrop_append_rtake (pools : List (String × Engine)) (count : Nat) :
    pools.rdrop count ++ pools.rtake count = pools :=
  List.take_append_drop ..

/-- Under a bound that can be met, the pools that were used last are left. -/
theorem evict_pools (h : 0 ≤ maxPools) :
    (evict maxPools registry).2.pools = registry.pools.rtake maxPools.toNat := by
  simp only [evict, if_neg (Int.not_lt.2 h), List.rtake]

/-- The statistics of the pools that are evicted are dropped. -/
theorem evict_usage (h : 0 ≤ maxPools) :
    (evict maxPools registry).2.usage = registry.usage.filter fun entry ↦
      !(keys (registry.pools.rdrop maxPools.toNat)).contains entry.1 := by
  simp only [evict, if_neg (Int.not_lt.2 h), List.rdrop, keys]

/-- With the same different names before, pools and statistics have the same names afterwards. -/
theorem evict_names (h : 0 ≤ maxPools) (hkeys : (keys registry.pools).Nodup)
    (hnames : ∀ name, name ∈ keys registry.usage ↔ name ∈ keys registry.pools) (name : String) :
    name ∈ keys (evict maxPools registry).2.usage ↔
      name ∈ keys (evict maxPools registry).2.pools := by
  have hsplit : keys (registry.pools.rdrop maxPools.toNat) ++
      keys (registry.pools.rtake maxPools.toNat) = keys registry.pools := by
    rw [← keys_append, rdrop_append_rtake]
  rw [evict_usage h, evict_pools h, keys_filter
    (fun name ↦ !(keys (registry.pools.rdrop maxPools.toNat)).contains name), List.mem_filter,
    hnames, ← hsplit]
  rw [← hsplit] at hkeys
  obtain ⟨_, _, hdisjoint⟩ := List.nodup_append.1 hkeys
  simp only [List.mem_append, Bool.not_eq_true', List.contains_eq_mem, decide_eq_false_iff_not]
  constructor
  · rintro ⟨hgone | hleft, hnot⟩
    · exact absurd hgone hnot
    · exact hleft
  · intro hleft
    exact ⟨.inr hleft, fun hgone ↦ hdisjoint name hgone name hleft rfl⟩

/-- The engines of the pools that are evicted are disposed of. -/
theorem evict_disposed (h : 0 ≤ maxPools) :
    (evict maxPools registry).2.backend.disposed =
      registry.backend.disposed ++ (registry.pools.rdrop maxPools.toNat).map Prod.snd := by
  simp only [evict, if_neg (Int.not_lt.2 h), List.rdrop, Backend.disposed_pools]

/-- No engine is numbered while pools are evicted. -/
theorem evict_engines (maxPools : Int) (registry : Registry) :
    (evict maxPools registry).2.backend.engines = registry.backend.engines := by
  unfold evict
  split
  · rfl
  · simp only [Backend.dispose_pools_eq]

/-- Connections that are out stay out while pools are evicted. -/
theorem evict_checked_out (maxPools : Int) (registry : Registry) :
    (evict maxPools registry).2.backend.checkedOut = registry.backend.checkedOut := by
  unfold evict
  split
  · rfl
  · simp only [Backend.dispose_pools_eq]

/-! ### Disposal of one pool -/

theorem dispose_pools (database : String) (registry : Registry) :
    (registry.dispose database).2.pools = without database registry.pools := by
  unfold dispose
  dsimp only
  split <;> rfl

theorem dispose_usage (database : String) (registry : Registry) :
    (registry.dispose database).2.usage = without database registry.usage := by
  unfold dispose
  dsimp only
  split <;> rfl

theorem dispose_created (database : String) (registry : Registry) :
    (registry.dispose database).2.backend.created = registry.backend.created := by
  unfold dispose
  dsimp only
  split
  · exact (Backend.created_record _ _).trans (List.append_nil _)
  · rfl

theorem dispose_checked_out (database : String) (registry : Registry) :
    (registry.dispose database).2.backend.checkedOut = registry.backend.checkedOut := by
  unfold dispose
  dsimp only
  split <;> rfl

end TenantReporting.Tenancy.Registry
