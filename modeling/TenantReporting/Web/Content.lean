import TenantReporting.Report.Service

/-!
# Contents of answers

The results of the reporting service as the JSON values that answers carry.
-/

namespace TenantReporting.Web

/-- A rendered report. -/
def renderedContent (rendered : Report.Rendered) : Json :=
  .object
    [("format", .text rendered.format.name), ("data", rendered.data),
     ("rowCount", .integer rendered.rowCount)]

/-- The query of a report. -/
def queryContent (compiled : Query.Compiled) : Json :=
  .object [("query", .text compiled.text), ("parameters", .list compiled.parameters)]

/-- A column that reports can use. -/
def columnContent (column : Tenancy.ColumnDescription) : Json :=
  .object
    [("name", column.name), ("type", .text column.type), ("nullable", .bool column.nullable)]

/-- A table that reports can use. -/
def tableContent (table : Tenancy.TableDescription) : Json :=
  .object [("name", table.name), ("columns", .list (table.columns.map columnContent))]

/-- A time, or null where there is none. -/
def timeContent (ticks? : Option Int) : Json :=
  .ofText? (ticks?.map Calendar.timeText)

/-- An entry of the log of executions. -/
def executionContent (entry : Report.LogEntry) : Json :=
  .object
    [("id", .integer entry.number), ("tenant_id", .text entry.tenant),
     ("output_format", .text entry.format), ("table_count", .ofInteger? entry.tableCount),
     ("execution_time_ms", .ofReal? entry.duration), ("row_count", .ofInteger? entry.rowCount),
     ("success", .bool entry.success), ("error_message", .ofText? entry.error),
     ("executed_at", timeContent (some entry.executedAt))]

/-- The statistics of a pool. -/
def poolContent (pool : Tenancy.PoolStatistics) : Json :=
  .object
    [("tenant", .text pool.database), ("acquisitions", .integer pool.acquisitions),
     ("created_at", timeContent pool.createdAt), ("last_used", timeContent pool.lastUsed),
     ("checked_out", .ofInteger? (pool.checkedOut.map Int.ofNat))]

end TenantReporting.Web
