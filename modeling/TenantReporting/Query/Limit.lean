import TenantReporting.Failure
import TenantReporting.Json.Basic

/-!
# Limits on the number of rows

A limit may be given as an integer, as a number without a fraction, or as text with ASCII digits
between blanks. It must be positive and at most the greatest limit that the service allows, and it
is written into query text, so it must not have too many digits.
-/

namespace TenantReporting.Query

/-- The text consists of ASCII digits between blanks. -/
def isLimitText (text : String) : Bool :=
  let digits := Text.trimBoth Text.isBlank text.toList
  !digits.isEmpty && digits.all Char.isDigit

/-- The integer that a limit is given as. -/
def limitValue : Json → Except Failure Int
  | .integer value => .ok value
  | .real value =>
    match value.toInt? with
    | some value => .ok value
    | none => .error (.report .limitNotPositive)
  | .text text =>
    if isLimitText text then (Numeral.integer text).mapError .numeral
    else .error (.report .limitNotPositive)
  | _ => .error (.report .limitNotPositive)

/-- Refuses a limit beyond the greatest one, which the refusal names. -/
def refuseBeyond (greatest : Int) : Except Failure Nat := do
  let greatest ← (Numeral.written greatest).mapError .numeral
  throw (.report (.limitTooGreat greatest))

/-- A positive integer up to the greatest limit as a number of rows. -/
def checkLimit (greatest value : Int) : Except Failure Nat :=
  if value ≤ 0 then .error (.report .limitNotPositive)
  else if greatest < value then refuseBeyond greatest
  else .ok value.toNat

/-- The number of rows to which a limit restricts a report; null stands for no restriction. -/
def limitOf (greatest : Int) : Json → Except Failure (Option Nat)
  | .null => .ok none
  | limit => do
    let value ← limitValue limit
    return some (← checkLimit greatest value)

/-- The limit itself if it can be written. -/
def writableLimit : Option Nat → Except Failure (Option Nat)
  | none => .ok none
  | some limit => do
    let _ ← (Numeral.written limit).mapError .numeral
    return some limit

end TenantReporting.Query
