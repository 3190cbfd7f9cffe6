import TenantReporting.Sql.Bond
import TenantReporting.Sql.Clause
import TenantReporting.Sql.Pair
import TenantReporting.Sql.Reader
import TenantReporting.Sql.Statement

/-!
# Outlines of statements

The outline of a statement is its tree after all stages of grouping. It shows what the statement
does: `verb?` is the word that it begins with, after the tables that it defines for itself. Text
that is too long or too deeply nested gets no outline.
-/

namespace TenantReporting.Sql

/-- Why a statement gets no outline. -/
inductive Excess where
  | depth (greatest : Nat)
  | breadth (greatest : Nat)
deriving DecidableEq, Repr

/-- The wording of an excess. -/
def Excess.message : Excess → String
  | .depth greatest => s!"Maximum grouping depth exceeded ({greatest})."
  | .breadth greatest => s!"Maximum number of tokens exceeded ({greatest})."

/-- How far statements are outlined. Without a bound they always are. -/
structure Bounds where
  depth? : Option Nat := some 100
  breadth? : Option Nat := some 10000
deriving DecidableEq, Repr

/-- One stage of grouping. -/
structure Stage where
  /-- The groups that the stage enters are measured before it. -/
  isMeasured : Bool
  /-- The groups that the stage does not enter. -/
  exempts : GroupKind → Bool := fun _ ↦ false
  /-- Arranges a whole statement. -/
  apply : List Node → List Node

namespace Stage

/-- The stage that groups pairs. -/
def ofPair (pair : Pair) : Stage where
  isMeasured := true
  exempts kind := kind == pair.kind
  apply := everywhere (· == pair.kind) fun _ ↦ pair.group

/-- The stage that groups what a bond binds. -/
def ofBond (bond : Bond) : Stage where
  isMeasured := true
  exempts kind := kind == bond.kind
  apply := everywhere (· == bond.kind) fun _ ↦ bond.group

/-- The stage that arranges every group except those of one kind. -/
def ofClause (exempt? : Option GroupKind) (arrange : List Node → List Node) : Stage where
  isMeasured := false
  apply := everywhere (fun kind ↦ some kind == exempt?) fun _ ↦ arrange

/-- The stage that arranges a statement at the top only. -/
def atTop (arrange : List Node → List Node) : Stage where
  isMeasured := false
  apply := arrange

/-- What a stage makes of a statement, unless it is nested too deeply. -/
def run (bounds : Bounds) (stage : Stage) (nodes : List Node) : Except Excess (List Node) :=
  match bounds.depth? with
  | some greatest =>
    if stage.isMeasured && greatest < depth stage.exempts nodes then .error (.depth greatest)
    else .ok (stage.apply nodes)
  | none => .ok (stage.apply nodes)

end Stage

/-- The stages of grouping, in order, after comments have been grouped. -/
def stages : List Stage :=
  pairs.map Stage.ofPair ++
  [.ofClause (some .window) groupWindows, .ofClause (some .function) groupFunctions,
   { isMeasured := false, apply := everywhere (· == .restriction) groupRestrictions },
   .ofBond qualification, .atTop indexing.group,
   .ofClause (some .identifier) (List.map identify),
   .ofClause (some .identifier) groupDirections,
   .ofBond typeCast, .ofBond zoneCast, .ofBond typedLiteral, .ofBond literalUnit,
   .ofBond operation, .ofBond comparison, .ofBond newName,
   .ofClause none groupNamed, .ofBond assignment, .ofClause none attachComments,
   .ofBond enumeration, .atTop groupValues]

/-- The outline of a statement. -/
def outline (bounds : Bounds) (statement : List Token) : Except Excess (List Node) :=
  let nodes := groupComments (statement.map .leaf)
  match bounds.breadth? with
  | some greatest =>
    if greatest < breadth nodes then .error (.breadth greatest)
    else stages.foldlM (fun nodes stage ↦ stage.run bounds nodes) nodes
  | none => stages.foldlM (fun nodes stage ↦ stage.run bounds nodes) nodes

/-- The first word for what to do with rows that comes right after a name or an enumeration. A node
right after one of those is not itself taken for another one. -/
def verbAfterNames? (afterNames : Bool) : List Node → Option String
  | [] => none
  | node :: nodes =>
    if node.isBlank then verbAfterNames? afterNames nodes
    else if afterNames then
      match node with
      | .leaf token =>
        if token.kind == .manipulation then some token.word else verbAfterNames? false nodes
      | .group _ _ => verbAfterNames? false nodes
    else verbAfterNames? (node.isGroupAmong [.identifier, .enumeration]) nodes

/-- The word that says what an outlined statement does, in capitals. -/
def verb? (nodes : List Node) : Option String :=
  match nodes.dropWhile fun node ↦ node.isBlank || node.isComment with
  | .leaf token :: rest =>
    if token.kind == .manipulation || token.kind == .definition then some token.word
    else if token.kind == .commonTable then verbAfterNames? false rest
    else none
  | _ => none

/-- The outlines of all statements in a text, leaving out blank ones. -/
def outlines (bounds : Bounds) (text : List Char) : Except Excess (List (List Node)) := do
  let statements := statements (tokens text)
  let outlines ← statements.mapM (outline bounds)
  let isBlank (statement : List Token) : Bool := statement.all (·.text.toList.all Text.isBlank)
  return ((statements.zip outlines).filter fun pair ↦ !isBlank pair.1).map (·.2)

/-- The statements are one alone, and it selects. -/
def isSingleSelect : List (List Node) → Bool
  | [nodes] => verb? nodes == some "SELECT"
  | _ => false

end TenantReporting.Sql
