import TenantReporting.Text.Quoted

/-!
# Names of tables, columns and aliases

A name cannot be bound as a parameter, so it enters query text only if it is an identifier: an
ASCII letter or underscore followed by ASCII letters, digits and underscores, of at most 63
characters. Everything else is refused with the reason.
-/

namespace TenantReporting.Query

/-- The greatest length of a name that the stores do not cut. -/
def maxNameLength : Nat := 63

/-- A character that may begin a name. -/
def isNameStart (c : Char) : Bool :=
  c.isAlpha || c == '_'

/-- A character that may stand in a name. -/
def isNameCharacter (c : Char) : Bool :=
  c.isAlphanum || c == '_'

/-- The text begins like a name and goes on with characters of the class `continues`. -/
def isNameOver (continues : Char → Bool) : List Char → Bool
  | [] => false
  | first :: rest => isNameStart first && rest.all continues

/-- A name that may stand in query text. -/
def IsIdentifier (name : String) : Prop :=
  name.toList.length ≤ maxNameLength ∧ isNameOver isNameCharacter name.toList = true

/-- Being an identifier is decided by a length and a scan. -/
instance (name : String) : Decidable (IsIdentifier name) :=
  inferInstanceAs (Decidable (_ ∧ _))

/-- Why a name is refused. -/
inductive NameDefect where
  | empty
  | tooLong
  | malformed (name : String)
deriving DecidableEq, Repr

/-- The wording of a refusal, where `role` says what the name was meant for. -/
def NameDefect.message (role : String) : NameDefect → String
  | .empty => "Invalid " ++ role ++ ": must be a non-empty string"
  | .tooLong => "Invalid " ++ role ++ s!": must be at most {maxNameLength} characters"
  | .malformed name =>
    "Invalid " ++ role ++ " " ++ Text.quoted name
      ++ ": only letters, digits and underscores are allowed, "
      ++ "and it must start with a letter or underscore"

/-- The name itself if it is an identifier, and otherwise the first reason to refuse it. -/
def checkName (name : String) : Except NameDefect String :=
  if name = "" then .error .empty
  else if maxNameLength < name.toList.length then .error .tooLong
  else if isNameOver isNameCharacter name.toList then .ok name
  else .error (.malformed name)

/-- A character inside a quoted name: the quotation mark is written twice. -/
def quotedNameCharacter (c : Char) : List Char :=
  if c == '"' then ['"', '"'] else [c]

/-- A name between quotation marks. -/
def quotedName (name : String) : List Char :=
  '"' :: name.toList.flatMap quotedNameCharacter ++ ['"']

/-- A column of a table. -/
structure ColumnName where
  table : String
  column : String
deriving DecidableEq, Repr

/-- Both names of the column. -/
def ColumnName.names (column : ColumnName) : List String :=
  [column.table, column.column]

/-- The column in query text. -/
def ColumnName.text (column : ColumnName) : List Char :=
  quotedName column.table ++ '.' :: quotedName column.column

end TenantReporting.Query
