import TenantReporting.Json.Display
import TenantReporting.Shape.Defect

/-!
# Explanations of defects

The whole text about a value that does not have its shape: a summary, and for each defect the place,
what is wrong there and what was found.
-/

namespace TenantReporting.Shape

/-- How many bytes of the form of a value are shown. -/
def maxShownBytes : Nat := 50

/-- The longest beginning of a text that takes at most so many bytes. -/
def takeBytes : Nat → List Char → List Char
  | _, [] => []
  | count, c :: rest =>
    if c.utf8Size ≤ count then c :: takeBytes (count - c.utf8Size) rest else []

/-- How many bytes a text takes. -/
def byteCount (text : List Char) : Nat :=
  text.foldl (fun count c ↦ count + c.utf8Size) 0

/-- A form without its middle if it is long. -/
def shortened (form : List Char) : List Char :=
  if maxShownBytes < byteCount form then
    let tail := takeBytes (maxShownBytes / 2 - 1) form.reverse
    takeBytes (maxShownBytes / 2) form ++ "...".toList ++ tail.reverse
  else form

/-- What is shown of a value. If it has no form, its kind is told instead. -/
def shown (value : Json) : String :=
  match value.literal with
  | .ok form => String.ofList (shortened form)
  | .error _ => "<unprintable " ++ value.kindName ++ " object>"

/-- The name of a step in a path. -/
def Step.name : Step → String
  | .key name => name
  | .item index => toString index

/-- Where the flaw with a short name is explained. -/
def explanationAddress (code : String) : String :=
  "/".intercalate ["https:", "", "errors.pydantic.dev", "2.14", "v", code]

/-- The paragraph about one defect. -/
def Defect.paragraph (defect : Defect) : String :=
  ".".intercalate (defect.path.map Step.name) ++ "\n  " ++ defect.flaw.message
    ++ " [type=" ++ defect.flaw.code ++ ", input_value=" ++ shown defect.found
    ++ ", input_type=" ++ defect.found.kindName ++ "]\n    For further information visit "
    ++ explanationAddress defect.flaw.code

/-- The text about a value that should have the shape of a model. -/
def explanation (model : String) (defects : List Defect) : String :=
  "\n".intercalate (summary model defects :: defects.map Defect.paragraph)

end TenantReporting.Shape
