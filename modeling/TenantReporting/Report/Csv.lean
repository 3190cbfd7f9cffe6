import TenantReporting.Failure
import TenantReporting.Json.Display

/-!
# Tables in CSV

A table is written with one record per line. The first record holds the keys of the first row; every
later one holds, for each of these keys, the cell of one row. A cell is quoted only if it contains a
comma, a quotation mark or a line feed, or if it is empty and alone in its record. A table with a
value that has no form cannot be written.
-/

namespace TenantReporting.Report

/-- A row of a report: its columns in order. -/
abbrev Row := List (String × Json)

namespace Csv

/-- The text of a cell. Null, the missing number and a missing column give an empty cell. -/
def cell : Option Json → Except Numeral.Fault String
  | none => .ok ""
  | some .null => .ok ""
  | some (.real .notANumber) => .ok ""
  | some value => value.display

/-- A character for which a field is quoted. -/
def forcesQuotes (c : Char) : Bool :=
  c == ',' || c == '"' || c == '\n'

/-- A character inside a quoted field: the quotation mark is written twice. -/
def quotedCharacter (c : Char) : List Char :=
  if c == '"' then ['"', '"'] else [c]

/-- A field between quotation marks. -/
def quoted (field : List Char) : List Char :=
  '"' :: field.flatMap quotedCharacter ++ ['"']

/-- A field, quoted if it has to be. -/
def field (text : List Char) : List Char :=
  if text.any forcesQuotes then quoted text else text

/-- A record with its line feed. An empty field that is alone is quoted, so that it differs from a
record without fields. -/
def record (fields : List String) : List Char :=
  match fields.map String.toList with
  | [[]] => ['"', '"', '\n']
  | fields => [','].intercalate (fields.map field) ++ ['\n']

/-- The keys of a row. -/
def columns (row : Row) : List String :=
  row.map (·.1)

/-- The cells of a row under the given columns. -/
def cells (columns : List String) (row : Row) : Except Numeral.Fault (List String) :=
  columns.mapM fun column ↦ cell (Json.entry? row column)

/-- The table with the columns of its first row. A table without rows is empty. -/
def table : List Row → Except Numeral.Fault (List Char)
  | [] => .ok []
  | first :: rest => do
    let written ← (first :: rest).mapM (cells (columns first))
    return record (columns first) ++ written.flatMap record

/-- The row with one more entry, which the part of a value at the given index writes as a pair. A
key that is no text belongs to no column. -/
def addPair (row : Row) (part : Json × Nat) : Except RowDefect Row :=
  match part.1.parts? with
  | none => .error (.notPaired part.2)
  | some [.text key, value] => .ok (Json.put row key value)
  | some [.list items, _] => .error (.unfitKey (Json.list items).kindName)
  | some [.object entries, _] => .error (.unfitKey (Json.object entries).kindName)
  | some [_, _] => .ok row
  | some parts => .error (.notTwo part.2 parts.length)

/-- The row that a value of a table other than its first stands for: an object, or pairs of keys and
values. -/
def rowOf : Json → Except RowDefect Row
  | .object entries => .ok entries
  | value =>
    match value.parts? with
    | some parts => parts.zipIdx.foldlM addPair []
    | none => .error (.notIterable value.kindName)

/-- The text of a table whose rows are JSON values. The first row must be an object. -/
def write : List Json → Except Failure String
  | [] => .ok ""
  | .object entries :: rest => do
    let rest ← (rest.mapM rowOf).mapError .row
    let text ← (table (entries :: rest)).mapError .numeral
    return String.ofList text
  | first :: _ => .error (.row (.noKeys first.kindName))

/-- The text of a table that is given as one JSON value. Nothing and empty values are tables without
rows. -/
def writeValue (value : Json) : Except Failure String :=
  if !value.isSubstantial then .ok ""
  else match value with
    | .list rows => write rows
    | .object _ => .error (.row .noSuchRow)
    | .text _ => .error (.row (.noKeys value.kindName))
    | _ => .error (.row (.notIndexed value.kindName))

end Csv

end TenantReporting.Report
