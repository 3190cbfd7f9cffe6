import TenantReporting.Query.Name
import TenantReporting.Text.Blank

/-!
# Names of tenant databases

A tenant is known by the name of its database. Blanks around the name do not count. Besides the
characters of identifiers it may contain hyphens, and it must not be a word that the store's query
language reserves.
-/

namespace TenantReporting.Query

/-- The words that the query language of the stores reserves. -/
def reservedWords : List String :=
  ["all", "analyse", "analyze", "and", "any", "array", "as", "asc", "asymmetric",
   "authorization", "binary", "both", "case", "cast", "check", "collate", "column",
   "constraint", "create", "cross", "current_catalog", "current_date", "current_role",
   "current_schema", "current_time", "current_timestamp", "current_user", "default",
   "deferrable", "desc", "distinct", "do", "else", "end", "except", "false", "fetch",
   "for", "foreign", "from", "grant", "group", "having", "in", "initially", "intersect",
   "into", "lateral", "leading", "left", "like", "limit", "localtime", "localtimestamp",
   "not", "null", "offset", "on", "only", "or", "order", "outer", "over", "overlaps",
   "placing", "primary", "references", "returning", "right", "select", "session_user",
   "similar", "some", "symmetric", "table", "then", "to", "trailing", "true", "union",
   "unique", "user", "using", "variadic", "verbose", "when", "where", "window", "with"]

/-- A character that may stand in the name of a database. -/
def isDatabaseCharacter (c : Char) : Bool :=
  isNameCharacter c || c == '-'

/-- A name that a tenant database can have. -/
def IsDatabaseName (name : String) : Prop :=
  name.toList.length ≤ maxNameLength ∧ isNameOver isDatabaseCharacter name.toList = true
    ∧ String.ofList (name.toList.map Char.toLower) ∉ reservedWords

/-- Being the name of a database is decided by a length, a scan and a look-up. -/
instance (name : String) : Decidable (IsDatabaseName name) :=
  inferInstanceAs (Decidable (_ ∧ _ ∧ _))

/-- Why a text does not name a tenant database. -/
inductive TenantDefect where
  | empty
  | tooLong
  | malformed
  | reserved (name : String)
deriving DecidableEq, Repr

/-- The wording of a refusal. -/
def TenantDefect.message : TenantDefect → String
  | .empty => "Database name must be a non-empty string"
  | .tooLong => s!"Database name must be between 1 and {maxNameLength} characters"
  | .malformed =>
    "Database name contains invalid characters. Only letters, numbers, underscores, "
      ++ "and hyphens are allowed, and it must start with a letter or underscore."
  | .reserved name => "Database name cannot be a reserved PostgreSQL keyword: " ++ name

/-- The database that a tenant's identification stands for: the text without surrounding blanks,
or the first reason to refuse it. -/
def databaseName (tenant : String) : Except TenantDefect String :=
  let name := Text.strip tenant
  if name = "" then .error .empty
  else if maxNameLength < name.toList.length then .error .tooLong
  else if !isNameOver isDatabaseCharacter name.toList then .error .malformed
  else if String.ofList (name.toList.map Char.toLower) ∈ reservedWords then
    .error (.reserved name)
  else .ok name

end TenantReporting.Query
