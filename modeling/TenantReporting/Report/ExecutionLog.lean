import TenantReporting.Failure

/-!
# The log of report executions

Every attempt to execute a report is recorded with its tenant, its duration and its outcome: it is
added to a session with the database of the log and the session is committed, or rolled back if that
fails. Entries are numbered from one in the order of recording; while the log cannot be written,
attempts are refused and take no number. The history of a tenant lists its entries from the newest
to the oldest.
-/

namespace TenantReporting.Report

/-- An attempt to execute a report, as it is reported to the log. The tenant and the outcome have to
be known. -/
structure Attempt where
  tenant : Option String
  format : String := "json"
  tableCount : Option Int := none
  duration : Option Binary64 := none
  rowCount : Option Int := none
  success : Option Bool := some true
  error : Option String := none

/-- An entry of the log. -/
structure LogEntry where
  number : Nat
  tenant : String
  format : String
  tableCount : Option Int
  duration : Option Binary64
  rowCount : Option Int
  success : Bool
  error : Option String
  executedAt : Int
deriving Repr

/-- The log: its entries in the order of recording, and whether it can be written. -/
structure ExecutionLog where
  entries : List LogEntry := []
  writable : Bool := true

/-- The greatest length of a recorded error. -/
def maxErrorLength : Nat := 1000

/-- An error as it is recorded: a long one is cut and ends in an ellipsis. -/
def recordedError (error : String) : String :=
  if maxErrorLength < error.toList.length then
    String.ofList (error.toList.take (maxErrorLength - 3)) ++ "..."
  else error

/-- A duration as it is recorded: never below zero, and without a sign on zero. The missing number
is no duration. -/
def recordedDuration (duration : Binary64) : Option Binary64 :=
  match duration with
  | .notANumber => none
  | duration => some (if duration.isBelowZero || duration.isZero then .zero else duration)

/-- The entry of an attempt at a time, under a number. -/
def Attempt.entry (number : Nat) (executedAt : Int) (attempt : Attempt) : Except Failure LogEntry :=
  match attempt.tenant, attempt.success with
  | none, _ => .error (.missingColumn "tenant_id")
  | some _, none => .error (.missingColumn "success")
  | some tenant, some success =>
    .ok
      { number
        tenant
        format := attempt.format
        tableCount := attempt.tableCount
        duration := attempt.duration.bind recordedDuration
        rowCount := attempt.rowCount
        success
        error := attempt.error.map recordedError
        executedAt }

/-! ### Sessions -/

/-- A session with the database of the log: the entries that are stored, the attempts that have been
added since, each with its time, and the failure that has spoiled the session. -/
structure LogSession where
  stored : List LogEntry := []
  pending : List (Int × Attempt) := []
  spoiledBy : Option Failure := none

namespace LogSession

/-- The attempt is to be stored with the next commit. -/
def add (now : Int) (attempt : Attempt) (session : LogSession) : LogSession :=
  { session with pending := session.pending ++ [(now, attempt)] }

/-- The entries of attempts under the numbers from the given one on. -/
def entriesFrom (number : Nat) : List (Int × Attempt) → Except Failure (List LogEntry)
  | [] => .ok []
  | (time, attempt) :: pending => do
    let entry ← attempt.entry number time
    return entry :: (← entriesFrom (number + 1) pending)

/-- The entries of what is pending under the next numbers. While the database cannot be written
there are none, and a session that has been spoiled stays so. -/
def pendingEntries (writable : Bool) (session : LogSession) : Except Failure (List LogEntry) :=
  match session.spoiledBy with
  | some failure => .error failure
  | none =>
    if writable then entriesFrom (session.stored.length + 1) session.pending
    else .error .notWritable

/-- Stores what is pending, all of it or nothing. -/
def commit (writable : Bool) (session : LogSession) : Except Failure Unit × LogSession :=
  match session.pendingEntries writable with
  | .ok entries => (.ok (), { stored := session.stored ++ entries })
  | .error failure => (.error failure, { session with spoiledBy := some failure })

/-- Forgets what is pending, and the failure. -/
def rollback (session : LogSession) : LogSession :=
  { stored := session.stored }

/-- Writes an attempt and tells its entry, which has the last number. An attempt that cannot be
stored is forgotten. -/
def write (writable : Bool) (now : Int) (attempt : Attempt) (session : LogSession) :
    Except Failure LogEntry × LogSession :=
  match (session.add now attempt).commit writable with
  | (.ok (), session) => (attempt.entry session.stored.length now, session)
  | (.error failure, session) => (.error failure, session.rollback)

end LogSession

namespace ExecutionLog

/-- Records an attempt at a time, in a session in which nothing else is pending. -/
def record (now : Int) (attempt : Attempt) (log : ExecutionLog) :
    Except Failure LogEntry × ExecutionLog :=
  let (outcome, session) := LogSession.write log.writable now attempt { stored := log.entries }
  (outcome, { log with entries := session.stored })

/-- The entry is as new as another: executed later, or at the same time under a greater number. -/
def isNewer (entry other : LogEntry) : Bool :=
  decide (other.executedAt < entry.executedAt)
    || (decide (other.executedAt = entry.executedAt) && decide (other.number ≤ entry.number))

/-- The first items up to a limit. A negative limit is none. -/
def upTo {α : Type} (limit : Int) (items : List α) : List α :=
  if limit < 0 then items else items.take limit.toNat

/-- The entries of a tenant from the newest to the oldest, possibly only those of failures. -/
def history (tenant : String) (failuresOnly : Bool) (limit : Int) (log : ExecutionLog) :
    List LogEntry :=
  let wanted (entry : LogEntry) : Bool :=
    entry.tenant == tenant && (!failuresOnly || !entry.success)
  upTo limit ((log.entries.filter wanted).mergeSort isNewer)

end ExecutionLog

end TenantReporting.Report
