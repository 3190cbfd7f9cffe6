import Mathlib.Data.List.Basic
import TenantReporting.Proofs.Query.Text
import TenantReporting.Proofs.Query.Name

/-!
# Reading query text back

A reader for the query language: at each place the next characters decide what comes. `readForm`
reads a whole text. Its parts are readers that give out what they found together with the rest of
the text. None of them looks further back or ahead than at the words in front of it.
-/

namespace TenantReporting.Query

variable {α β : Type}

/-! ### The reader -/

/-- A way to find something at the front of a text: what was found, and the rest. -/
abbrev Reading (α : Type) := List Char → Option (α × List Char)

/-- The text after a word at its front. -/
def after? (word : String) (text : List Char) : Option (List Char) :=
  text.dropPrefix? word.toList

/-- Reads one of several choices by the word for it. -/
def readWord (word : α → String) (choices : List α) : Reading α := fun text ↦
  choices.findSome? fun choice ↦ (after? (word choice) text).map (choice, ·)

/-- Reads a name between quotation marks. -/
def readName : Reading String := fun text ↦ do
  let rest ← after? "\"" text
  let after ← after? "\"" (rest.dropWhile (· != '"'))
  return (String.ofList (rest.takeWhile (· != '"')), after)

/-- Reads the column of a table. -/
def readColumn : Reading ColumnName := fun text ↦ do
  let (table, rest) ← readName text
  let rest ← after? "." rest
  let (column, rest) ← readName rest
  return (⟨table, column⟩, rest)

/-- Reads a column, possibly as the argument of an aggregate. -/
def readExpression : Reading (ColumnName × Option Aggregate) := fun text ↦
  match readWord Aggregate.opening Aggregate.all text with
  | some (aggregate, rest) => do
    let (column, rest) ← readColumn rest
    let rest ← after? aggregate.closing rest
    return ((column, some aggregate), rest)
  | none => (readColumn text).map fun (column, rest) ↦ ((column, none), rest)

/-- Reads the name that an item is given, if it is given one. -/
def readLabel : Reading (Option String) := fun text ↦
  match after? " AS " text with
  | some rest => (readName rest).map fun (label, rest) ↦ (some label, rest)
  | none => some (none, text)

/-- Reads a selected item. -/
def readItem : Reading SelectItem := fun text ↦ do
  let ((column, aggregate), rest) ← readExpression text
  let (label, rest) ← readLabel rest
  return (⟨column, aggregate, label⟩, rest)

/-- Reads a join with the blank in front of it. -/
def readJoin : Reading Join := fun text ↦ do
  let (kind, rest) ← readWord JoinKind.opening JoinKind.all text
  let (table, rest) ← readName rest
  let rest ← after? " ON " rest
  let (left, rest) ← readColumn rest
  let rest ← after? " = " rest
  let (right, rest) ← readColumn rest
  return (⟨kind, table, ⟨left, right⟩⟩, rest)

/-- Reads what comes after the opening of an operator, and counts the placeholders. -/
def readCount : Operator → Reading Nat
  | .compare _ => fun text ↦ some (1, text.dropWhile Char.isDigit)
  | .among => fun text ↦
    (after? ")" (text.dropWhile (· != ')'))).map fun rest ↦
      ((text.takeWhile (· != ')')).count '$', rest)
  | .isNull => fun text ↦ some (0, text)
  | .isNotNull => fun text ↦ some (0, text)

/-- Reads a test: its operator and how many placeholders it has. -/
def readTest : Reading (Operator × Nat) := fun text ↦ do
  let (operator, rest) ← readWord Operator.opening Operator.all text
  let (count, rest) ← readCount operator rest
  return ((operator, count), rest)

/-- Reads a filter. -/
def readFilter : Reading FilterForm := fun text ↦ do
  let (column, rest) ← readColumn text
  let rest ← after? " " rest
  let ((operator, count), rest) ← readTest rest
  return (⟨column, operator, count⟩, rest)

/-- Reads a column to order by. -/
def readKey : Reading OrderKey := fun text ↦ do
  let (column, rest) ← readName text
  let (direction, rest) ← readWord Direction.closing [.ascending, .descending] rest
  return (⟨column, direction⟩, rest)

/-- Reads as many further items as there are, each after a separator. -/
def readMore (separator : String) (read : Reading α) (text : List Char) : List α × List Char :=
  match (after? separator text).bind read with
  | none => ([], text)
  | some (item, rest) =>
    if rest.length < text.length then
      let (items, rest) := readMore separator read rest
      (item :: items, rest)
    else ([], text)
termination_by text.length

/-- Reads a clause with the blank in front of it, no items if there is none. -/
def readClause (keyword separator : String) (read : Reading α) : Reading (List α) := fun text ↦
  match after? keyword text with
  | none => some ([], text)
  | some rest => do
    let (item, rest) ← read rest
    let (items, rest) := readMore separator read rest
    return (item :: items, rest)

/-- Reads the limit with the blank in front of it. -/
def readLimit : Reading (Option Nat) := fun text ↦
  match after? " LIMIT " text with
  | none => some (none, text)
  | some rest =>
    some (some (Nat.ofDigitChars 10 (rest.takeWhile Char.isDigit) 0), rest.dropWhile Char.isDigit)

/-- Reads the text of a whole query. -/
def readForm (text : List Char) : Option Form := do
  let (selection, rest) ← readClause "SELECT " ", " readItem text
  let rest ← after? " FROM " rest
  let (source, rest) ← readName rest
  let (joins, rest) := readMore "" readJoin rest
  let (filters, rest) ← readClause " WHERE " " AND " readFilter rest
  let (groups, rest) ← readClause " GROUP BY " ", " readName rest
  let (order, rest) ← readClause " ORDER BY " ", " readKey rest
  let (limit, rest) ← readLimit rest
  if rest.isEmpty then some { selection, source, joins, filters, groups, order, limit } else none

end TenantReporting.Query
