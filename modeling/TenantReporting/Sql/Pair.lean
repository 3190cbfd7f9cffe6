import TenantReporting.Sql.Node

/-!
# Pairs

Parentheses, brackets and some words come in pairs. What stands between the two and the pair itself
form a group. A closing one belongs to the last opening one that is still unmatched; unmatched ones
stay as they are.
-/

namespace TenantReporting.Sql

/-- A pair of an opening and a closing token, and the kind of group that it makes. -/
structure Pair where
  kind : GroupKind
  opens : Node → Bool
  closes : Node → Bool

namespace Pair

/-- The nodes read since the last unmatched opening token, and those read before it back to the one
before, and so on. Each list is in reverse. -/
structure Open where
  inner : List Node := []
  outer : List (List Node) := []

/-- Reads one more node. -/
def read (pair : Pair) (state : Open) (node : Node) : Open :=
  if pair.opens node then ⟨[node], state.inner :: state.outer⟩
  else if pair.closes node then
    match state.outer with
    | around :: outer => ⟨.group pair.kind (node :: state.inner).reverse :: around, outer⟩
    | [] => ⟨node :: state.inner, []⟩
  else ⟨node :: state.inner, state.outer⟩

/-- All nodes in order, those after unmatched opening tokens at their places. -/
def Open.close (state : Open) : List Node :=
  (state.inner ++ state.outer.flatten).reverse

/-- The nodes with the pairs among them grouped. -/
def group (pair : Pair) (nodes : List Node) : List Node :=
  (nodes.foldl pair.read {}).close

end Pair

/-- Square brackets. -/
def brackets : Pair :=
  ⟨.brackets, Node.isMark "[", Node.isMark "]"⟩

/-- Parentheses. -/
def parentheses : Pair :=
  ⟨.parentheses, Node.isMark "(", Node.isMark ")"⟩

/-- Choices between cases. -/
def caseOf : Pair :=
  ⟨.caseOf, Node.isWordAmong ["CASE"], Node.isWordAmong ["END"]⟩

/-- Conditional statements. -/
def conditional : Pair :=
  ⟨.conditional, Node.isWordAmong ["IF"], Node.isWordAmong ["END IF"]⟩

/-- Loops. -/
def loop : Pair :=
  ⟨.loop, Node.isWordAmong ["FOR", "FOREACH"], Node.isWordAmong ["END LOOP"]⟩

/-- Blocks of statements. -/
def block : Pair :=
  ⟨.block, Node.isWordAmong ["BEGIN"], Node.isWordAmong ["END"]⟩

/-- All pairs, in the order in which they are grouped. -/
def pairs : List Pair :=
  [brackets, parentheses, caseOf, conditional, loop, block]

end TenantReporting.Sql
