import TenantReporting.Query.Name
import TenantReporting.Text.Blank

/-!
# Join conditions

The condition of a join cannot be bound as a parameter either. It must have the form
`table.column = table.column`; it is read into its four names and never copied into query text.
-/

namespace TenantReporting.Query

/-- The equality of two columns. -/
structure JoinCondition where
  left : ColumnName
  right : ColumnName
deriving DecidableEq, Repr

/-- The four names of the condition. -/
def JoinCondition.names (condition : JoinCondition) : List String :=
  condition.left.names ++ condition.right.names

/-- The condition in query text. -/
def JoinCondition.text (condition : JoinCondition) : List Char :=
  condition.left.text ++ " = ".toList ++ condition.right.text

/-- Why a text is not a join condition. -/
inductive JoinDefect where
  | empty
  | malformed
  | name (role : String) (defect : NameDefect)
deriving DecidableEq, Repr

/-- The wording of a refusal. -/
def JoinDefect.message : JoinDefect → String
  | .empty => "Join condition must be a non-empty string"
  | .malformed => "Invalid join condition format. Must be: table.column = table.column"
  | .name role defect => "Invalid join condition: " ++ defect.message role

/-- The longest name at the front of a text, and the text after it. -/
def splitName? : List Char → Option (String × List Char)
  | [] => none
  | first :: rest =>
    if isNameStart first then
      some (String.ofList (first :: rest.takeWhile isNameCharacter),
        rest.dropWhile isNameCharacter)
    else none

/-- The two names with a point between them at the front of a text, and the text after them. -/
def splitColumn? (text : List Char) : Option (ColumnName × List Char) :=
  match splitName? text with
  | some (table, '.' :: rest) =>
    (splitName? rest).map fun (column, rest) ↦ (⟨table, column⟩, rest)
  | _ => none

/-- The four names of a text that has the form of a join condition. Blanks may stand around the
columns. -/
def splitCondition? (text : List Char) : Option JoinCondition :=
  match splitColumn? (text.dropWhile Text.isBlank) with
  | none => none
  | some (left, rest) =>
    match rest.dropWhile Text.isBlank with
    | '=' :: rest =>
      match splitColumn? (rest.dropWhile Text.isBlank) with
      | none => none
      | some (right, rest) => if rest.all Text.isBlank then some ⟨left, right⟩ else none
    | _ => none

/-- The column if both of its names are identifiers. -/
def checkJoinColumn (column : ColumnName) : Except JoinDefect ColumnName := do
  let table ← (checkName column.table).mapError (.name "join table")
  let column ← (checkName column.column).mapError (.name "join column")
  return ⟨table, column⟩

/-- The join condition that a text writes, or the first reason to refuse it. -/
def joinCondition (text : String) : Except JoinDefect JoinCondition :=
  if text.toList.all Text.isBlank then .error .empty
  else match splitCondition? text.toList with
    | none => .error .malformed
    | some condition => do
      let left ← checkJoinColumn condition.left
      let right ← checkJoinColumn condition.right
      return ⟨left, right⟩

end TenantReporting.Query
