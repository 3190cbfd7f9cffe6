import TenantReporting.Sql.Node

/-!
# Clauses

Groups that begin with a certain word, and groups that a node forms with the one right before or
after it. Each function arranges one list of nodes.
-/

namespace TenantReporting.Sql

/-! ### Comments -/

/-- Nodes with their comments grouped, when `comments` is the run of comments and line breaks that
has been read, in reverse. A run at the end of the nodes stays as it is. -/
def groupCommentsAfter (comments : List Node) : List Node → List Node
  | [] => comments.reverse
  | node :: nodes =>
    let isBreak := node.hasKind (· == .lineBreak)
    if node.hasKind TokenKind.isComment || isBreak && !comments.isEmpty then
      groupCommentsAfter (node :: comments) nodes
    else if comments.isEmpty then node :: groupCommentsAfter [] nodes
    else .group .comment comments.reverse :: node :: groupCommentsAfter [] nodes

/-- Nodes with each run of comments grouped, together with the line breaks in and after it. -/
def groupComments (nodes : List Node) : List Node :=
  groupCommentsAfter [] nodes

/-- The nodes before the last one that is not blank, that one, and the blanks after it, all in
reverse, when the nodes are given in reverse. -/
def splitLast? (reversed : List Node) : Option (List Node × Node × List Node) :=
  match reversed.dropWhile Node.isBlank with
  | [] => none
  | node :: before => some (before, node, reversed.takeWhile Node.isBlank)

/-- The reversed nodes with one more, which a group right before it takes in if it is a comment. -/
def attachComment (reversed : List Node) (node : Node) : List Node :=
  match node.isGroupAmong [.comment], splitLast? reversed with
  | true, some (before, .group kind members, blanks) =>
    .group kind (members ++ blanks.reverse ++ [node]) :: before
  | _, _ => node :: reversed

/-- Nodes with each group of comments inside the group right before it. -/
def attachComments (nodes : List Node) : List Node :=
  (nodes.foldl attachComment []).reverse

/-! ### Functions and windows -/

/-- The nodes up to and with the first one that is not blank, if that satisfies a condition, and
the nodes after it. -/
def splitNext? (condition : Node → Bool) (nodes : List Node) : Option (List Node × List Node) :=
  match nodes.dropWhile Node.isBlank with
  | [] => none
  | next :: after =>
    if condition next then some (nodes.takeWhile Node.isBlank ++ [next], after) else none

/-- A node in front of others, grouped with the description of a window if it is the word OVER. -/
def openWindow (node : Node) (nodes : List Node) : List Node :=
  let describes (next : Node) : Bool :=
    next.isGroupAmong [.parentheses] || next.hasKind TokenKind.isName
  match node.isWordAmong ["OVER"], splitNext? describes nodes with
  | true, some (window, after) => .group .window (node :: window) :: after
  | _, _ => node :: nodes

/-- Nodes with the descriptions of windows grouped. -/
def groupWindows (nodes : List Node) : List Node :=
  nodes.foldr openWindow []

/-- A node in front of others, grouped with its arguments and its window if it is a name. -/
def applyName (node : Node) (nodes : List Node) : List Node :=
  match node.hasKind TokenKind.isName, splitNext? (Node.isGroupAmong [.parentheses]) nodes with
  | true, some (arguments, after) =>
    match splitNext? (Node.isGroupAmong [.window]) after with
    | some (window, after) => .group .function (node :: arguments ++ window) :: after
    | none => .group .function (node :: arguments) :: after
  | _, _ => node :: nodes

/-- The nodes describe a new table by its columns, so that a name before parentheses is no
function. -/
def describesTable (nodes : List Node) : Bool :=
  nodes.any (Node.isLeaf (·.word == "CREATE")) && nodes.any (Node.isLeaf (·.word == "TABLE"))
    && !nodes.any (Node.isLeaf (·.text == "AS"))

/-- Nodes with the applications of functions grouped. -/
def groupFunctions (nodes : List Node) : List Node :=
  if describesTable nodes then nodes else nodes.foldr applyName []

/-! ### Restrictions -/

/-- The words that end the restriction of a query. -/
def restrictionEnds : List String :=
  ["ORDER BY", "GROUP BY", "LIMIT", "UNION", "UNION ALL", "EXCEPT", "HAVING", "RETURNING", "INTO",
   "INTERSECT"]

/-- Nodes with the restrictions grouped, when `current?` is the restriction that has been begun, in
reverse. -/
def groupRestrictionsAfter (current? : Option (List Node)) : List Node → List Node
  | [] => current?.toList.map fun current ↦ .group .restriction current.reverse
  | node :: nodes =>
    match current? with
    | some current =>
      if node.isWordAmong restrictionEnds then
        .group .restriction current.reverse :: node :: groupRestrictionsAfter none nodes
      else groupRestrictionsAfter (some (node :: current)) nodes
    | none =>
      if node.isWordAmong ["WHERE"] then groupRestrictionsAfter (some [node]) nodes
      else node :: groupRestrictionsAfter none nodes

/-- Nodes of a group with the restrictions grouped. In parentheses and brackets the closing mark
does not belong to a restriction. -/
def groupRestrictions (kind? : Option GroupKind) (nodes : List Node) : List Node :=
  if kind? == some .parentheses || kind? == some .brackets then
    groupRestrictionsAfter none nodes.dropLast ++ nodes.getLast?.toList
  else groupRestrictionsAfter none nodes

/-! ### Names -/

/-- A node, grouped if it is a name or quoted like one. -/
def identify (node : Node) : Node :=
  if node.hasKind fun kind ↦ kind == .name || kind == .symbol then .group .identifier [node]
  else node

/-- The reversed nodes with one more, grouped with the name or number before it if it says in which
direction to order. -/
def direct (reversed : List Node) (node : Node) : List Node :=
  match node.hasKind (· == .direction), splitLast? reversed with
  | true, some (before, ordered, blanks) =>
    if ordered.isGroupAmong [.identifier] || ordered.hasKind TokenKind.isNumber then
      .group .identifier (ordered :: blanks.reverse ++ [node]) :: before
    else node :: reversed
  | _, _ => node :: reversed

/-- Nodes with the directions of order grouped with what they order. -/
def groupDirections (nodes : List Node) : List Node :=
  (nodes.foldl direct []).reverse

/-- The node can be followed by another name for it. -/
def canBeNamed (node : Node) : Bool :=
  node.isGroupAmong [.parentheses, .function, .caseOf, .identifier, .operation, .comparison]
    || node.hasKind TokenKind.isNumber

/-- The reversed nodes, and whether the last of them is blank or not yet named. With one more node
that is a name it names the one before. -/
def giveName (state : List Node × Bool) (node : Node) : List Node × Bool :=
  let (reversed, isFree) := state
  if node.isBlank then (node :: reversed, isFree)
  else
    match isFree && node.isGroupAmong [.identifier], splitLast? reversed with
    | true, some (before, named, blanks) =>
      if canBeNamed named then
        (named.extend .identifier (blanks.reverse ++ [node]) :: before, false)
      else (node :: reversed, true)
    | _, _ => (node :: reversed, true)

/-- Nodes with each name grouped with what it names. -/
def groupNamed (nodes : List Node) : List Node :=
  (nodes.foldl giveName ([], true)).1.reverse

/-! ### Values -/

/-- Nodes with the rows of values after the word VALUES grouped, up to the last row. -/
def groupValues (nodes : List Node) : List Node :=
  let isStart : Node → Bool := Node.isWordAmong ["VALUES"]
  let isRow : Node → Bool := Node.isGroupAmong [.parentheses]
  let rows := nodes.dropWhile fun node ↦ !isStart node
  if rows.any isRow then
    let after := (rows.reverse.takeWhile fun node ↦ !isRow node).reverse
    (nodes.takeWhile fun node ↦ !isStart node)
      ++ .group .values (rows.take (rows.length - after.length)) :: after
  else nodes

end TenantReporting.Sql
