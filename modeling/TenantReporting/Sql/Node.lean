import TenantReporting.Sql.Token

/-!
# Statements as trees

A statement is a list of nodes: single tokens, and groups of nodes that belong together. Groups are
formed by going over a statement several times; `everywhere` goes over it from the innermost groups
outwards, and `depth` says how deep the groups are nested.
-/

namespace TenantReporting.Sql

/-- What a group of nodes is. -/
inductive GroupKind where
  | comment
  | brackets
  | parentheses
  | caseOf
  | conditional
  | loop
  | block
  | window
  | function
  | restriction
  | identifier
  | typedLiteral
  | operation
  | comparison
  | assignment
  | enumeration
  | values
deriving DecidableEq, Repr

/-- A token, or a group of nodes. -/
inductive Node where
  | leaf (token : Token)
  | group (kind : GroupKind) (members : List Node)
deriving Repr

namespace Node

/-- The node is a token that satisfies a condition. -/
def isLeaf (condition : Token → Bool) : Node → Bool
  | leaf token => condition token
  | group _ _ => false

/-- The node is a token of a kind that satisfies a condition. -/
def hasKind (condition : TokenKind → Bool) : Node → Bool :=
  isLeaf fun token ↦ condition token.kind

/-- The node is a blank token. -/
def isBlank : Node → Bool :=
  hasKind TokenKind.isBlank

/-- The node is one of the given plain keywords. -/
def isWordAmong (words : List String) : Node → Bool :=
  isLeaf (Token.isWordAmong words)

/-- The node is the given punctuation mark. -/
def isMark (mark : String) : Node → Bool :=
  isLeaf (Token.isMark mark)

/-- The node is a group. -/
def isGroup : Node → Bool
  | leaf _ => false
  | group _ _ => true

/-- The node is a group of one of the given kinds. -/
def isGroupAmong (kinds : List GroupKind) : Node → Bool
  | leaf _ => false
  | group kind _ => kinds.contains kind

/-- The node is a comment or a group of comments. -/
def isComment : Node → Bool
  | leaf token => token.kind.isComment
  | group kind _ => kind == .comment

/-- The group that a node becomes when further nodes are joined to it. If it is a group of the kind
already, it takes them in. -/
def extend (kind : GroupKind) (added : List Node) : Node → Node
  | leaf token => group kind (leaf token :: added)
  | group own members =>
    if own == kind then group own (members ++ added) else group kind (group own members :: added)

end Node

mutual

/-- A node after each of its groups has been arranged anew, inner groups before outer ones. Groups
of an exempt kind stay as they are. -/
def Node.rearranged (exempt : GroupKind → Bool)
    (arrange : Option GroupKind → List Node → List Node) : Node → Node
  | .leaf token => .leaf token
  | .group kind members =>
    if exempt kind then .group kind members
    else .group kind (arrange (some kind) (rearrangedAll exempt arrange members))

/-- Nodes after each of their groups has been arranged anew. -/
def rearrangedAll (exempt : GroupKind → Bool)
    (arrange : Option GroupKind → List Node → List Node) : List Node → List Node
  | [] => []
  | node :: nodes => node.rearranged exempt arrange :: rearrangedAll exempt arrange nodes

end

/-- A statement after its groups and then the statement itself have been arranged anew. What is
arranged is told the kind of its group, and nothing at the top. -/
def everywhere (exempt : GroupKind → Bool) (arrange : Option GroupKind → List Node → List Node)
    (nodes : List Node) : List Node :=
  arrange none (rearrangedAll exempt arrange nodes)

mutual

/-- How deep the groups in a node are nested. Groups of an exempt kind count as tokens. -/
def Node.depth (exempt : GroupKind → Bool) : Node → Nat
  | .leaf _ => 0
  | .group kind members => if exempt kind then 0 else 1 + depth exempt members

/-- How deep the groups in a list of nodes are nested. -/
def depth (exempt : GroupKind → Bool) : List Node → Nat
  | [] => 0
  | node :: nodes => max (node.depth exempt) (depth exempt nodes)

end

mutual

/-- The greatest number of members of a group in a node. -/
def Node.breadth : Node → Nat
  | .leaf _ => 0
  | .group _ members => max members.length (breadthWithin members)

/-- The greatest number of members of a group in a list of nodes. -/
def breadthWithin : List Node → Nat
  | [] => 0
  | node :: nodes => max node.breadth (breadthWithin nodes)

end

/-- The greatest number of nodes in a statement or in any group of it. -/
def breadth (nodes : List Node) : Nat :=
  max nodes.length (breadthWithin nodes)

end TenantReporting.Sql
