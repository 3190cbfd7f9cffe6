import TenantReporting.Text.DecimalDigit

/-!
# Named parameters

Stores take parameters by name. The placeholder `$n` becomes the named parameter `:pn`, and the
values are bound to the names `p1`, `p2` and so on.
-/

namespace TenantReporting.Query

/-- The text with a dollar sign before a digit replaced by the mark of a named parameter. -/
def bindNames : List Char → List Char
  | [] => []
  | c :: rest =>
    if c == '$' && (rest.head?.bind Text.decimalDigit?).isSome then
      ':' :: 'p' :: bindNames rest
    else c :: bindNames rest

/-- The values, each with the name of its parameter, where `number` is the number of the first. -/
def namedFrom {α : Type} (number : Nat) : List α → List (String × α)
  | [] => []
  | value :: values =>
    (String.ofList ('p' :: Nat.toDigits 10 number), value) :: namedFrom (number + 1) values

/-- The values, each with the name of its parameter. -/
def named {α : Type} (values : List α) : List (String × α) :=
  namedFrom 1 values

end TenantReporting.Query
