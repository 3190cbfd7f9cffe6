import TenantReporting.Text.Blank
import TenantReporting.Text.LetterCase

/-!
# Formats of rendered reports
-/

namespace TenantReporting.Report

/-- A format in which a report can be rendered. -/
inductive Format where
  | json
  | csv
  | pdf
  | excel
deriving DecidableEq, Inhabited, Repr

/-- The name of a format. -/
def Format.name : Format → String
  | .json => "json"
  | .csv => "csv"
  | .pdf => "pdf"
  | .excel => "excel"

/-- Every format. -/
def Format.all : List Format :=
  [.json, .csv, .pdf, .excel]

/-- The format with exactly the given name. -/
def Format.named? (name : String) : Option Format :=
  Format.all.find? fun format ↦ format.name == name

/-- The format that a text names, in any case and between blanks. -/
def Format.ofText? (text : String) : Option Format :=
  Format.named? (Text.lowered (Text.strip text))

end TenantReporting.Report
