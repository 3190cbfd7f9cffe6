import TenantReporting.Report.ExecutionLog

/-!
# Writing to the log of executions

An attempt is written in a session that is committed or rolled back at once. So a session in which
nothing is pending is left with nothing pending, whether or not the entry could be stored
(`LogSession.write_eq`), and recording an attempt adds its entry to the log or changes nothing
(`ExecutionLog.record_eq`).
-/

namespace TenantReporting.Report

/-- The entry that an attempt at a time gets in a log with so many entries, which can be written or
cannot. -/
def Attempt.entryIn (entries : List LogEntry) (writable : Bool) (now : Int) (attempt : Attempt) :
    Except Failure LogEntry :=
  if writable then attempt.entry (entries.length + 1) now else .error .notWritable

/-- A session with the attempt as the only one that is pending stores its entry. -/
theorem LogSession.pending_entries_eq (writable : Bool) (now : Int) (attempt : Attempt)
    (stored : List LogEntry) :
    (add now attempt { stored }).pendingEntries writable =
      (attempt.entryIn stored writable now).map fun entry ↦ [entry] := by
  unfold pendingEntries Attempt.entryIn
  cases writable with
  | false => rfl
  | true =>
      dsimp only [add, List.nil_append]
      rw [if_pos rfl, if_pos rfl, entriesFrom, entriesFrom]
      cases attempt.entry (stored.length + 1) now <;> rfl

/-- Writing in a session in which nothing is pending stores the entry or changes nothing. -/
theorem LogSession.write_eq (writable : Bool) (now : Int) (attempt : Attempt)
    (stored : List LogEntry) :
    write writable now attempt { stored } =
      match attempt.entryIn stored writable now with
      | .ok entry => (.ok entry, { stored := stored ++ [entry] })
      | .error failure => (.error failure, { stored }) := by
  unfold write commit
  rw [pending_entries_eq]
  cases hentry : attempt.entryIn stored writable now with
  | error failure => rfl
  | ok entry =>
      have hread : attempt.entry (stored ++ [entry]).length now = .ok entry := by
        rw [List.length_append, List.length_singleton, ← hentry, Attempt.entryIn]
        cases writable with
        | false => cases hentry
        | true => rfl
      dsimp only [Except.map, add]
      rw [hread]

/-- Recording an attempt adds its entry to the log or changes nothing. -/
theorem ExecutionLog.record_eq (now : Int) (attempt : Attempt) (log : ExecutionLog) :
    log.record now attempt =
      match attempt.entryIn log.entries log.writable now with
      | .ok entry => (.ok entry, { log with entries := log.entries ++ [entry] })
      | .error failure => (.error failure, log) := by
  unfold record
  rw [LogSession.write_eq]
  cases attempt.entryIn log.entries log.writable now <;> rfl

/-- The entry of an attempt has the number that it gets. -/
theorem Attempt.entry_number {number : Nat} {now : Int} {attempt : Attempt} {entry : LogEntry}
    (h : attempt.entry number now = .ok entry) : entry.number = number := by
  unfold Attempt.entry at h
  split at h
  · cases h
  · cases h
  · cases h
    rfl

end TenantReporting.Report
