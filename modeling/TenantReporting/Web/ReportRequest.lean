import TenantReporting.Report.Format
import TenantReporting.ReportConfig
import TenantReporting.Text.Quoted
import TenantReporting.Web.Body

/-!
# Requests for reports

What the body of a request for a report has to hold: the configuration of the report and, where a
report is to be rendered, its format.
-/

namespace TenantReporting.Web

open Shape

/-- What a request for a report asks for. -/
structure ReportRequest where
  config : ReportConfig
  format : Report.Format := .json
deriving Repr

namespace ReportRequest

/-- The names of the formats as a refusal lists them. -/
def formatChoices : String :=
  "'json', 'csv', 'pdf' or 'excel'"

/-- Reads the name of a format. -/
def formatReader : Reader Report.Format := fun path value ↦
  match value.text?.bind Report.Format.named? with
  | some format => .accepted format
  | none => refuse (.notAmong formatChoices) path value

/-- The key of the configuration in a body. Its second name counts only where the first is
absent. -/
def configKey (scope : Scope) : String :=
  scope.nameOf "reportConfig" "report_config"

/-- Reads a request for the rows of a report, or for its query. -/
def rowsReader : Reader ReportRequest :=
  object "BuildReportRequest" fun scope ↦
    (fun config ↦ { config }) <$> scope.required (configKey scope) ReportConfig.reader
      <* scope.onlyKeys [configKey scope]

/-- Reads a request for a rendered report. -/
def renderedReader : Reader ReportRequest :=
  object "GenerateReportRequest" fun scope ↦
    ReportRequest.mk <$> scope.required (configKey scope) ReportConfig.reader
      <*> scope.optional "format" formatReader .json
      <* scope.onlyKeys [configKey scope, "format"]

/-- The path to the body of a request. -/
def bodyPath : List Step :=
  [.key "body"]

/-- The defect as it shows in the body of a request, where objects go by their fields. -/
def asFound (defect : Defect) : Defect :=
  match defect.flaw with
  | .notObject _ => { defect with flaw := .notFields }
  | _ => defect

/-- Reads the body of a request. -/
def ofBody (reader : Reader ReportRequest) : Body → Except (List Defect) ReportRequest
  | .absent => .error [⟨.missing, bodyPath, .null⟩]
  | .raw bytes => .error [⟨.notFields, bodyPath, .text (Text.quotedBytes bytes)⟩]
  | .value value => (reader bodyPath value).toExcept.mapError (·.map asFound)

end ReportRequest

end TenantReporting.Web
