import TenantReporting.Json.Basic

/-!
# Defects of shape

A value that should have a certain shape may miss it in several places at once. A defect says what
is wrong, where in the value, and what was found there.
-/

namespace TenantReporting.Shape

/-- A step into a value: to an entry of an object or to an item of a list. -/
inductive Step where
  | key (name : String)
  | item (index : Nat)
deriving DecidableEq, Repr

/-- What is wrong at one place of a value. -/
inductive Flaw where
  | missing
  | notText
  | notList
  | notObject (model : String)
  | notFields
  | unknownKey
  | notAmong (choices : String)
  | notInteger
  | integerTooLong
  | below (least : Nat)
  | above (greatest : Nat)
  | notBoolean
  | notJson (reason : String)
deriving DecidableEq, Repr

/-- The short name of a flaw. -/
def Flaw.code : Flaw → String
  | .missing => "missing"
  | .notText => "string_type"
  | .notList => "list_type"
  | .notObject _ => "model_type"
  | .notFields => "model_attributes_type"
  | .unknownKey => "extra_forbidden"
  | .notAmong _ => "enum"
  | .notInteger => "int_parsing"
  | .integerTooLong => "int_parsing_size"
  | .below _ => "greater_than_equal"
  | .above _ => "less_than_equal"
  | .notBoolean => "bool_parsing"
  | .notJson _ => "json_invalid"

/-- The wording of a flaw. -/
def Flaw.message : Flaw → String
  | .missing => "Field required"
  | .notText => "Input should be a valid string"
  | .notList => "Input should be a valid list"
  | .notObject model => "Input should be a valid dictionary or instance of " ++ model
  | .notFields => "Input should be a valid dictionary or object to extract fields from"
  | .unknownKey => "Extra inputs are not permitted"
  | .notAmong choices => "Input should be " ++ choices
  | .notInteger => "Input should be a valid integer, unable to parse string as an integer"
  | .integerTooLong => "Unable to parse input string as an integer, exceeded maximum size"
  | .below least => s!"Input should be greater than or equal to {least}"
  | .above greatest => s!"Input should be less than or equal to {greatest}"
  | .notBoolean => "Input should be a valid boolean, unable to interpret input"
  | .notJson _ => "JSON decode error"

/-- What was asked for, where the wording mentions it. -/
def Flaw.context? : Flaw → Option (List (String × Json))
  | .notAmong choices => some [("expected", .text choices)]
  | .below least => some [("ge", .integer least)]
  | .above greatest => some [("le", .integer greatest)]
  | .notJson reason => some [("error", .text reason)]
  | _ => none

/-- A flaw at the end of a path into a value, and what was found there. -/
structure Defect where
  flaw : Flaw
  path : List Step
  found : Json
deriving Repr

/-- A step as a JSON value. -/
def Step.toJson : Step → Json
  | .key name => .text name
  | .item index => .integer index

/-- The count of defects of a value that should have the shape of a model. -/
def summary (model : String) (defects : List Defect) : String :=
  let noun := if defects.length = 1 then "error" else "errors"
  s!"{defects.length} validation {noun} for " ++ model

end TenantReporting.Shape
