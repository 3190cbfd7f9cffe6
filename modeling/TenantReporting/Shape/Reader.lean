import TenantReporting.Shape.Defect

/-!
# Reading values of a shape

A reader turns a value into a typed one or lists every defect of its shape. Readers are combined
so that the defects of all parts are collected: those of the declared fields in the order of their
declaration, then the unknown keys in the order of the value.
-/

namespace TenantReporting.Shape

/-- A typed value, or the defects that stand in its way. -/
inductive Checked (α : Type) where
  | accepted (value : α)
  | refused (defects : List Defect)

namespace Checked

variable {α β : Type}

/-- The result of a function on an accepted value. -/
def map (f : α → β) : Checked α → Checked β
  | .accepted value => .accepted (f value)
  | .refused defects => .refused defects

/-- Both values if both are accepted, and otherwise the defects of both. -/
def pair : Checked α → Checked β → Checked (α × β)
  | .accepted a, .accepted b => .accepted (a, b)
  | .accepted _, .refused defects => .refused defects
  | .refused defects, .accepted _ => .refused defects
  | .refused defects, .refused more => .refused (defects ++ more)

/-- Functions of several checked values collect the defects of all of them. -/
instance : Applicative Checked where
  pure := .accepted
  seq f value := (pair f (value ())).map fun (f, value) ↦ f value

/-- All values if all are accepted, and otherwise the defects of all. -/
def all : List (Checked α) → Checked (List α)
  | [] => .accepted []
  | value :: values => (pair value (all values)).map fun (value, values) ↦ value :: values

/-- The value, or the defects as an error. -/
def toExcept : Checked α → Except (List Defect) α
  | .accepted value => .ok value
  | .refused defects => .error defects

end Checked

/-- Reads a value that stands at the end of a path. -/
abbrev Reader (α : Type) := List Step → Json → Checked α

/-- A refusal with one defect. -/
def refuse {α : Type} (flaw : Flaw) (path : List Step) (found : Json) : Checked α :=
  .refused [⟨flaw, path, found⟩]

/-- Reads any value as it is. -/
def anything : Reader Json :=
  fun _ value ↦ .accepted value

/-- Reads text. -/
def text : Reader String
  | _, .text value => .accepted value
  | path, value => refuse .notText path value

/-- Reads text or null. -/
def text? : Reader (Option String)
  | _, .null => .accepted none
  | path, value => (text path value).map some

/-- Reads a list whose items are read by `item`. -/
def listOf {α : Type} (item : Reader α) : Reader (List α)
  | path, .list items =>
    .all (items.zipIdx.map fun (value, index) ↦ item (path ++ [.item index]) value)
  | path, value => refuse .notList path value

/-! ### Objects -/

/-- The entries of an object and the path to it. -/
structure Scope where
  path : List Step
  entries : List (String × Json)

/-- Reads an object of the named model from its entries. -/
def object {α : Type} (model : String) (fields : Scope → Checked α) : Reader α
  | path, .object entries => fields ⟨path, entries⟩
  | path, value => refuse (.notObject model) path value

namespace Scope

variable {α : Type}

/-- Reads the entry with the given key, which must be there. -/
def required (scope : Scope) (key : String) (reader : Reader α) : Checked α :=
  match Json.entry? scope.entries key with
  | some value => reader (scope.path ++ [.key key]) value
  | none => refuse .missing (scope.path ++ [.key key]) (.object scope.entries)

/-- Reads the entry with the given key, or takes `absent` if it is not there. -/
def optional (scope : Scope) (key : String) (reader : Reader α) (absent : α) : Checked α :=
  match Json.entry? scope.entries key with
  | some value => reader (scope.path ++ [.key key]) value
  | none => .accepted absent

/-- The key that a field with two names goes by in this object: its other name only if that one is
there and the first is not. -/
def nameOf (scope : Scope) (first other : String) : String :=
  if (Json.entry? scope.entries first).isNone && (Json.entry? scope.entries other).isSome then other
  else first

/-- Refuses every key that is not one of the known ones. -/
def onlyKeys (scope : Scope) (known : List String) : Checked Unit :=
  match scope.entries.filter fun entry ↦ !known.contains entry.1 with
  | [] => .accepted ()
  | unknown =>
    .refused (unknown.map fun (key, value) ↦ ⟨.unknownKey, scope.path ++ [.key key], value⟩)

end Scope

end TenantReporting.Shape
