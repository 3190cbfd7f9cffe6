import TenantReporting.Sql.Node

/-!
# Bonds

Some nodes bind what stands before and after them: a point between two names, an operator between
two values, a comma between two items. A bond says which nodes bind and what they may bind;
`Bond.group` goes over a list of nodes once and groups what is bound.

Places are counted in the list as it has been grouped so far. A node that has gone into a group is
still looked at in its turn, at the place that is left for it there.
-/

namespace TenantReporting.Sql

/-- A way in which a middle node binds its neighbours. -/
structure Bond where
  kind : GroupKind
  /-- A group of the kind in front takes the rest in, and is not put into a new group. -/
  takesIn : Bool
  /-- The node binds its neighbours. -/
  binds : Node → Bool
  /-- The node may stand before the middle one. -/
  mayPrecede : Node → Bool
  /-- The node, or the end of the list, may come after the middle one. -/
  mayFollow : Option Node → Bool
  /-- The group begins with the middle node and not with the one before it. -/
  fromMiddle : Bool := false
  /-- The place of the last node of the group, from the places of the middle node and of the one
  after it. -/
  lastPlace : List Node → Nat → Option Nat → Nat :=
    fun _ middle next? ↦ next?.getD middle

/-- The place of the first node from a given one on that satisfies a condition. -/
def placeFrom? (condition : Node → Bool) (start : Nat) (nodes : List Node) : Option Nat :=
  ((nodes.drop start).findIdx? condition).map (start + ·)

/-- The nodes with those from the first to the last place made into one group. -/
def groupRange (kind : GroupKind) (takesIn : Bool) (first last : Nat) (nodes : List Node) :
    List Node :=
  let grouped :=
    match (nodes.drop first).take (last + 1 - first) with
    | [] => Node.group kind []
    | node :: added => if takesIn then node.extend kind added else .group kind (node :: added)
  nodes.take first ++ grouped :: nodes.drop (last + 1)

namespace Bond

/-- How far a list has been gone over. -/
structure Scan where
  /-- The list as grouped so far. -/
  nodes : List Node
  /-- The number of nodes of the list as given that have been looked at. -/
  seen : Nat := 0
  /-- By how much the list has become shorter. -/
  shift : Nat := 0
  /-- The node looked at last, blanks aside, and its place. -/
  previous? : Option (Nat × Node) := none

/-- Groups what the node at a place binds, if it binds anything there. -/
def bindAt? (bond : Bond) (scan : Scan) (place : Nat) (node : Node) : Option Scan :=
  if bond.binds node then
    match scan.previous? with
    | none => none
    | some (previous, before) =>
      let next? := placeFrom? (fun node ↦ !node.isBlank) (place + 1) scan.nodes
      let after? := next?.bind fun next ↦ scan.nodes[next]?
      if bond.mayPrecede before && bond.mayFollow after? then
        let first := if bond.fromMiddle then place else previous
        let last := bond.lastPlace scan.nodes place next?
        let nodes := groupRange bond.kind bond.takesIn first last scan.nodes
        some { scan with
          nodes
          shift := scan.shift + (last - first)
          previous? := nodes[first]?.map (first, ·) }
      else none
  else none

/-- Looks at one more node of the list as given. -/
def look (bond : Bond) (scan : Scan) (node : Node) : Scan :=
  let place := scan.seen - scan.shift
  if scan.seen < scan.shift || node.isBlank then { scan with seen := scan.seen + 1 }
  else
    match bond.bindAt? scan place node with
    | some scan => { scan with seen := scan.seen + 1 }
    | none => { scan with seen := scan.seen + 1, previous? := some (place, node) }

/-- The nodes with what is bound among them grouped. -/
def group (bond : Bond) (nodes : List Node) : List Node :=
  (nodes.foldl bond.look { nodes }).nodes

end Bond

/-! ### The bonds -/

/-- A node that can be qualified by a name before it, or qualify one. -/
def isQualifier (node : Node) : Bool :=
  node.isGroupAmong [.brackets, .function]
    || node.hasKind fun kind ↦ kind == .name || kind == .symbol

/-- A value that can be computed with. -/
def isValue (node : Node) : Bool :=
  node.isGroupAmong [.parentheses, .function, .identifier, .operation, .typedLiteral]
    || node.hasKind TokenKind.isOperand

/-- A point or an arrow between a name and what belongs to it. If nothing follows that can belong to
the name, the group ends with the point. -/
def qualification : Bond where
  kind := .identifier
  takesIn := true
  binds node :=
    node.isMark "." || node.isLeaf fun token ↦
      token.kind == .operator && (token.text == "->" || token.text == "->>")
  mayPrecede := isQualifier
  mayFollow _ := true
  lastPlace nodes middle next? :=
    let belongs (node : Node) : Bool :=
      isQualifier node || node.hasKind fun kind ↦ kind == .wildcard || kind == .text
    (next?.filter fun next ↦ nodes[next]?.any belongs).getD middle

/-- Brackets after what they index. -/
def indexing : Bond where
  kind := .identifier
  takesIn := true
  binds := Node.isGroupAmong [.brackets]
  mayPrecede node := isQualifier node || node.isGroupAmong [.identifier]
  mayFollow _ := true
  lastPlace _ middle _ := middle

/-- A double colon between a value and its type. -/
def typeCast : Bond where
  kind := .identifier
  takesIn := true
  binds := Node.isMark "::"
  mayPrecede _ := true
  mayFollow next? := next?.isSome

/-- A time zone after a time. -/
def zoneCast : Bond where
  kind := .identifier
  takesIn := true
  binds := Node.hasKind (· == .zone)
  mayPrecede _ := true
  mayFollow next? := next?.any fun next ↦
    next.isWordAmong ["AS"] || next.hasKind (· == .text)

/-- The name of a type before a literal. -/
def typedLiteral : Bond where
  kind := .typedLiteral
  takesIn := false
  binds node := node.hasKind (· == .builtin) || node.isWordAmong ["TIMESTAMP"]
  mayPrecede _ := true
  mayFollow next? := next?.any (Node.hasKind (· == .text))
  fromMiddle := true

/-- The unit of a time after a typed literal. -/
def literalUnit : Bond where
  kind := .typedLiteral
  takesIn := true
  binds := Node.isGroupAmong [.typedLiteral]
  mayPrecede _ := true
  mayFollow next? := next?.any
    (Node.isWordAmong ["DAY", "HOUR", "MINUTE", "MONTH", "SECOND", "YEAR"])
  fromMiddle := true

/-- An operator between two values. -/
def operation : Bond :=
  let isOperand (node : Node) : Bool :=
    isValue node || node.isGroupAmong [.brackets, .comparison]
      || node.isWordAmong ["CURRENT_DATE", "CURRENT_TIME", "CURRENT_TIMESTAMP"]
  { kind := .operation
    takesIn := false
    binds := Node.hasKind fun kind ↦ kind == .operator || kind == .wildcard
    mayPrecede := isOperand
    mayFollow next? := next?.any isOperand }

/-- A sign of comparison between two values, of which each may be missing. -/
def comparison : Bond :=
  let isCompared (node : Node) : Bool :=
    isValue node || node.isLeaf fun token ↦ token.kind.isKeyword && token.word == "NULL"
  { kind := .comparison
    takesIn := false
    binds := Node.hasKind (· == .comparison)
    mayPrecede := isCompared
    mayFollow next? := next?.any isCompared }

/-- The word AS between what is renamed and its new name. -/
def newName : Bond where
  kind := .identifier
  takesIn := true
  binds := Node.isLeaf fun token ↦ token.kind.isKeyword && token.word == "AS"
  mayPrecede node := !node.isLeaf fun token ↦ token.kind.isKeyword && token.word != "NULL"
  mayFollow next? := next?.any fun next ↦
    !next.hasKind fun kind ↦ kind == .manipulation || kind == .definition || kind == .commonTable

/-- An assignment. It reaches to the next semicolon if there is one. -/
def assignment : Bond where
  kind := .assignment
  takesIn := false
  binds := Node.hasKind (· == .assignment)
  mayPrecede node := !node.hasKind (· == .keyword)
  mayFollow next? := next?.any fun next ↦ !next.hasKind (· == .keyword)
  lastPlace nodes middle next? :=
    let next := next?.getD middle
    (placeFrom? (Node.isMark ";") (next + 1) nodes).getD next

/-- A comma between two items. -/
def enumeration : Bond :=
  let isItem (node : Node) : Bool :=
    node.isGroupAmong [.function, .caseOf, .identifier, .comparison, .enumeration, .operation]
      || node.hasKind fun kind ↦ kind.isOperand || kind == .keyword || kind == .wildcard
  { kind := .enumeration
    takesIn := true
    binds := Node.isMark ","
    mayPrecede := isItem
    mayFollow next? := next?.any isItem }

end TenantReporting.Sql
