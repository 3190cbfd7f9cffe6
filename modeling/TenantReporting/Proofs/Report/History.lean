import Mathlib.Data.List.Nodup
import TenantReporting.Report.ExecutionLog

/-!
# The order of a history

The entries of a history are sorted by their times, and by their numbers where the times are equal.
Numbers are different, so there is one such order only (`merge_sort_newest`). In a log whose times
have never gone back it is the reverse of the order in which the entries were recorded
(`history_in_order`).
-/

namespace TenantReporting.Report.ExecutionLog

theorem is_newer_iff {entry other : LogEntry} :
    isNewer entry other = true ↔ other.executedAt < entry.executedAt ∨
      other.executedAt = entry.executedAt ∧ other.number ≤ entry.number := by
  simp [isNewer]

theorem is_newer_trans (first second third : LogEntry) (h : isNewer first second = true)
    (hnext : isNewer second third = true) : isNewer first third = true := by
  rw [is_newer_iff] at *
  omega

theorem is_newer_total (entry other : LogEntry) :
    (isNewer entry other || isNewer other entry) = true := by
  rw [Bool.or_eq_true, is_newer_iff, is_newer_iff]
  omega

/-- Entries with different numbers can be sorted in one way only. -/
theorem merge_sort_newest {entries sorted : List LogEntry}
    (hnumbers : (entries.map (·.number)).Nodup)
    (hsorted : sorted.Pairwise fun entry other ↦ isNewer entry other = true)
    (hperm : sorted.Perm entries) : entries.mergeSort isNewer = sorted := by
  refine List.Perm.eq_of_pairwise (fun entry other hentry hother hnewer holder ↦ ?_)
    (List.pairwise_mergeSort is_newer_trans is_newer_total entries) hsorted
    ((List.mergeSort_perm entries isNewer).trans hperm.symm)
  -- Of two entries that are newer than each other the numbers are equal.
  rw [is_newer_iff] at hnewer holder
  refine List.inj_on_of_nodup_map hnumbers (List.mem_mergeSort.1 hentry) (hperm.mem_iff.1 hother) ?_
  omega

/-- Later entries have later times, or equal ones, and greater numbers. -/
def IsInOrder (entries : List LogEntry) : Prop :=
  entries.Pairwise fun earlier later ↦
    earlier.executedAt ≤ later.executedAt ∧ earlier.number < later.number

/-- Entries in order are sorted by turning them around. -/
theorem merge_sort_in_order {entries : List LogEntry} (h : IsInOrder entries) :
    entries.mergeSort isNewer = entries.reverse := by
  refine merge_sort_newest ?_ ?_ (List.reverse_perm entries)
  · rw [List.nodup_iff_pairwise_ne, List.pairwise_map]
    exact h.imp fun hlater ↦ Nat.ne_of_lt hlater.2
  · rw [List.pairwise_reverse]
    refine h.imp fun hlater ↦ ?_
    rw [is_newer_iff]
    omega

/-- The entries that a history of a tenant lists. -/
def listed (tenant : String) (failuresOnly : Bool) (entry : LogEntry) : Bool :=
  entry.tenant == tenant && (!failuresOnly || !entry.success)

/-- The history of a log in order lists its entries backwards. -/
theorem history_in_order {log : ExecutionLog} (h : IsInOrder log.entries) (tenant : String)
    (failuresOnly : Bool) (limit : Int) :
    log.history tenant failuresOnly limit =
      upTo limit (log.entries.filter (listed tenant failuresOnly)).reverse := by
  have hlisted : IsInOrder (log.entries.filter (listed tenant failuresOnly)) := h.filter _
  rw [← merge_sort_in_order hlisted]
  rfl

end TenantReporting.Report.ExecutionLog
