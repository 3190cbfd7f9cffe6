import TenantReporting.Proofs.Report.History
import TenantReporting.Proofs.Report.LogSession

/-!
# The newest entries of a log

A log is filled by attempts that are reported to it, at times that may go back. A report fails while
the log cannot be written, or if it does not say what has to be known. The entries of the log are
those that the other reports were answered with, under the numbers from one (`entries_after`,
`IsNumbered.after`).

Since all numbers are different, the entries of a tenant have one order from the newest to the
oldest, and the order of the failures among them is a part of it (`merge_sort_filter`). Histories
list the entries in this order up to a limit (`histories_list_newest`).
-/

namespace TenantReporting.Report

/-- Something that happens to a log: an attempt is reported at a time, or from now on the log can be
written, or cannot. -/
inductive LogEvent where
  | report (now : Int) (attempt : Attempt)
  | setWritable (writable : Bool)

/-- The entry with which a report is answered, if there is one, and the log after the event. -/
def LogEvent.happen (event : LogEvent) (log : ExecutionLog) : Option LogEntry × ExecutionLog :=
  match event with
  | report now attempt => ((log.record now attempt).1.toOption, (log.record now attempt).2)
  | setWritable writable => (none, { log with writable })

/-- An event adds the entry with which it is answered, under the next number, and nothing else. -/
theorem LogEvent.happen_cases (event : LogEvent) (log : ExecutionLog) :
    ((event.happen log).1 = none ∧ (event.happen log).2.entries = log.entries) ∨
      ∃ entry, (event.happen log).1 = some entry ∧ entry.number = log.entries.length + 1 ∧
        (event.happen log).2.entries = log.entries ++ [entry] := by
  cases event with
  | report now attempt =>
      unfold happen
      dsimp only
      rw [ExecutionLog.record_eq]
      cases hentry : attempt.entryIn log.entries log.writable now with
      | error failure => exact .inl ⟨rfl, rfl⟩
      | ok entry =>
          have hnumber : entry.number = log.entries.length + 1 := by
            unfold Attempt.entryIn at hentry
            split at hentry
            · exact Attempt.entry_number hentry
            · cases hentry
          exact .inr ⟨entry, rfl, hnumber, rfl⟩
  | setWritable writable => exact .inl ⟨rfl, rfl⟩

namespace ExecutionLog

/-- The log after some events in a row. -/
def after (events : List LogEvent) (log : ExecutionLog) : ExecutionLog :=
  events.foldl (fun log event ↦ (event.happen log).2) log

/-- The entries with which reports are answered while some events happen in a row. -/
def answers : List LogEvent → ExecutionLog → List LogEntry
  | [], _ => []
  | event :: events, log => (event.happen log).1.toList ++ answers events (event.happen log).2

/-- The entries have the numbers from one, in the order of recording. -/
def IsNumbered (log : ExecutionLog) : Prop :=
  log.entries.map (·.number) = List.range' 1 log.entries.length

/-- Events add the entries with which they are answered, and nothing else. -/
theorem entries_after (events : List LogEvent) (log : ExecutionLog) :
    (log.after events).entries = log.entries ++ answers events log := by
  induction events generalizing log with
  | nil => exact (List.append_nil _).symm
  | cons event events ih =>
      show (after events (event.happen log).2).entries = _
      rw [ih, answers, ← List.append_assoc]
      rcases event.happen_cases log with ⟨hnone, hentries⟩ | ⟨entry, hsome, -, hentries⟩
      · rw [hnone, hentries, Option.toList_none, List.append_nil]
      · rw [hsome, hentries, Option.toList_some]

theorem IsNumbered.happen {log : ExecutionLog} (h : log.IsNumbered) (event : LogEvent) :
    (event.happen log).2.IsNumbered := by
  unfold IsNumbered at h ⊢
  rcases event.happen_cases log with ⟨-, hentries⟩ | ⟨entry, -, hnumber, hentries⟩
  · rw [hentries, h]
  · rw [hentries, List.map_append, h, List.length_append, List.length_singleton,
      ← List.range'_append_1, List.map_singleton, hnumber, Nat.add_comm 1]
    rfl

/-- Whatever happens, entries keep their numbers, and new ones take the next. -/
theorem IsNumbered.after {log : ExecutionLog} (h : log.IsNumbered) (events : List LogEvent) :
    (log.after events).IsNumbered := by
  induction events generalizing log with
  | nil => exact h
  | cons event events ih => exact ih (h.happen event)

theorem IsNumbered.nodup {log : ExecutionLog} (h : log.IsNumbered) :
    (log.entries.map (·.number)).Nodup := by
  rw [h]
  exact List.nodup_range' 1

end ExecutionLog

/-- The entry was recorded for a later time than another one, or for the same time under a greater
number. -/
def LogEntry.IsNewerThan (entry other : LogEntry) : Prop :=
  other.executedAt < entry.executedAt ∨
    other.executedAt = entry.executedAt ∧ other.number < entry.number

namespace ExecutionLog

section Sorting

variable {entries : List LogEntry} (hnumbers : (entries.map (·.number)).Nodup)
include hnumbers

/-- Sorting leaves no two entries of the same age. -/
theorem merge_sort_strict : (entries.mergeSort isNewer).Pairwise LogEntry.IsNewerThan := by
  have hsorted := List.pairwise_mergeSort is_newer_trans is_newer_total entries
  have hdistinct : (entries.mergeSort isNewer).Pairwise fun entry other ↦
      entry.number ≠ other.number := by
    rw [← List.pairwise_map, ← List.nodup_iff_pairwise_ne]
    exact ((List.mergeSort_perm entries isNewer).map _).nodup_iff.2 hnumbers
  refine (hsorted.and hdistinct).imp fun {entry other} h ↦ ?_
  rw [is_newer_iff] at h
  unfold LogEntry.IsNewerThan
  omega

/-- It makes no difference whether entries are chosen before they are sorted or afterwards. -/
theorem merge_sort_filter (wanted : LogEntry → Bool) :
    (entries.filter wanted).mergeSort isNewer = (entries.mergeSort isNewer).filter wanted := by
  refine merge_sort_newest ?_ ?_ ((List.mergeSort_perm entries isNewer).filter wanted)
  · exact hnumbers.sublist (List.filter_sublist.map _)
  · exact (List.pairwise_mergeSort is_newer_trans is_newer_total entries).filter wanted

end Sorting

@[simp] theorem up_to_natural {α : Type} (limit : Nat) (items : List α) :
    upTo limit items = items.take limit := by
  rw [upTo, if_neg (by omega), Int.toNat_natCast]

/-- A history cuts the sorted entries of its tenant, or the failures among them. -/
theorem history_of_numbered {log : ExecutionLog} (h : log.IsNumbered) (tenant : String)
    (failuresOnly : Bool) (limit : Nat) :
    log.history tenant failuresOnly limit =
      (((log.entries.filter (·.tenant == tenant)).mergeSort isNewer).filter fun entry ↦
        !failuresOnly || !entry.success).take limit := by
  have hnumbers : ((log.entries.filter (·.tenant == tenant)).map (·.number)).Nodup :=
    h.nodup.sublist (List.filter_sublist.map _)
  rw [← merge_sort_filter hnumbers, List.filter_filter, history, up_to_natural]
  simp only [Bool.and_comm]

end ExecutionLog

open ExecutionLog in
/-- Whatever has happened to a log, each tenant has one list of entries, strictly from the newest to
the oldest, of all entries with which reports for the tenant were answered, each once. A history is
the front of this list up to its limit, and a history of failures is the front of the failures in
this list. So a smaller limit cuts off the end of what a greater one lists, and the failures are
listed in the order that they have in the whole history. -/
theorem histories_list_newest (events : List LogEvent) (tenant : String) :
    let log := after events {}
    let recorded := (answers events {}).filter fun entry ↦ entry.tenant == tenant
    ∃ newest : List LogEntry,
      newest.Perm recorded ∧ newest.Pairwise LogEntry.IsNewerThan ∧
        (∀ limit : Nat, log.history tenant false limit = newest.take limit ∧
          (log.history tenant false limit).length = min limit recorded.length) ∧
        (∀ limit : Nat, log.history tenant true limit =
          (newest.filter fun entry ↦ !entry.success).take limit) ∧
        (∀ (failuresOnly : Bool) (limit more : Nat),
          log.history tenant failuresOnly limit <+:
            log.history tenant failuresOnly (limit + more : Nat)) ∧
        ∀ limit more : Nat, (log.history tenant true limit).Sublist
          (log.history tenant false (recorded.length + more : Nat)) := by
  intro log recorded
  have hempty : IsNumbered {} := rfl
  have hnumbered : log.IsNumbered := hempty.after events
  have hrecorded : log.entries.filter (·.tenant == tenant) = recorded := by
    rw [entries_after, List.nil_append]
  have hhistory := history_of_numbered hnumbered tenant
  have hnumbers : (recorded.map (·.number)).Nodup := by
    rw [← hrecorded]
    exact hnumbered.nodup.sublist (List.filter_sublist.map _)
  have hperm := List.mergeSort_perm recorded isNewer
  have hall (limit : Nat) :
      log.history tenant false limit = (recorded.mergeSort isNewer).take limit := by
    rw [hhistory, hrecorded]
    simp
  have hfailures (limit : Nat) : log.history tenant true limit =
      ((recorded.mergeSort isNewer).filter fun entry ↦ !entry.success).take limit := by
    rw [hhistory, hrecorded]
    simp
  refine ⟨recorded.mergeSort isNewer, hperm, merge_sort_strict hnumbers,
    fun limit ↦ ⟨hall limit, ?_⟩, hfailures, fun failuresOnly limit more ↦ ?_, fun limit more ↦ ?_⟩
  · rw [hall, List.length_take, hperm.length_eq]
  · rw [hhistory, hhistory]
    exact List.take_prefix_take_left (Nat.le_add_right limit more)
  · -- The limit is no limit for so many entries.
    have hwhole : log.history tenant false (recorded.length + more : Nat) =
        recorded.mergeSort isNewer := by
      rw [hall, List.take_of_length_le]
      rw [hperm.length_eq]
      exact Nat.le_add_right _ _
    rw [hwhole, hfailures]
    exact (List.take_sublist _ _).trans List.filter_sublist

/-- What was recorded last is not the newest if the clock went back before it. -/
example :
    let attempt : Attempt := { tenant := some "south" }
    let log := ExecutionLog.after [.report 5 attempt, .report 3 attempt] {}
    (log.history "south" false 1).map (·.number) = [1] := by
  cbv

end TenantReporting.Report
