import TenantReporting.Report.Csv

/-!
# Rendering reports

A report is rendered as JSON, as CSV, or in a format for which a renderer has been registered. The
format is decided before a report is executed, so that a finished report can always be rendered.
-/

namespace TenantReporting.Report

/-- The renderers that are registered for formats that are not built in. -/
abbrev Renderers := Format → Option (Json → Json)

/-- No renderers besides the built-in ones. -/
def noRenderers : Renderers :=
  fun _ ↦ none

/-- A report in its format. -/
structure Rendered where
  format : Format
  data : Json
  rowCount : Nat
deriving Repr

/-- The format that a value names; null stands for JSON. -/
def formatOf (given : Json) : Except Failure Format :=
  match given with
  | .null => .ok .json
  | given =>
    match given.display with
    | .error fault => .error (.numeral fault)
    | .ok name =>
      match Format.ofText? name with
      | some format => .ok format
      | none => .error (.report (.unknownFormat name))

/-- The format that a value names, provided that reports can be rendered in it. -/
def checkFormat (renderers : Renderers) (given : Json) : Except Failure Format :=
  match formatOf given with
  | .error failure => .error failure
  | .ok .json => .ok .json
  | .ok .csv => .ok .csv
  | .ok format =>
    if (renderers format).isSome then .ok format else .error (.report (.noRenderer format))

/-- How many rows there are in a value that is given as the rows of a report. -/
def rowCount (rows : Json) : Except Failure Nat :=
  match rows.parts? with
  | some parts => .ok parts.length
  | none => .error (.row (.notCounted rows.kindName))

/-- The rows of a report as data of a format. -/
def dataIn (renderers : Renderers) (format : Format) (rows : Json) : Except Failure Json :=
  match format with
  | .json => .ok rows
  | .csv => (Csv.writeValue rows).map .text
  | format =>
    match renderers format with
    | some render => .ok (render rows)
    | none => .error (.report (.noRenderer format))

/-- The rows of a report rendered in a format. -/
def renderAs (renderers : Renderers) (format : Format) (rows : Json) : Except Failure Rendered := do
  let data ← dataIn renderers format rows
  return ⟨format, data, ← rowCount rows⟩

/-- The rows of a report rendered in the format that a value names. -/
def render (renderers : Renderers) (given rows : Json) : Except Failure Rendered :=
  match checkFormat renderers given with
  | .error failure => .error failure
  | .ok format => renderAs renderers format rows

end TenantReporting.Report
