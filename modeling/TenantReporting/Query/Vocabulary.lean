import TenantReporting.Text.Blank
import TenantReporting.Text.LetterCase

/-!
# The vocabulary of queries

The words that a report configuration may choose: aggregate functions, kinds of join, operators of
filters and directions of order. Each is recognised regardless of case and of some blanks, and is
written into query text in one way only.
-/

namespace TenantReporting.Query

/-- A function over the rows of a group. -/
inductive Aggregate where
  | count
  | sum
  | average
  | minimum
  | maximum
  | concatenation
deriving DecidableEq, Repr

/-- The word for an aggregate. -/
def Aggregate.word : Aggregate → String
  | .count => "COUNT"
  | .sum => "SUM"
  | .average => "AVG"
  | .minimum => "MIN"
  | .maximum => "MAX"
  | .concatenation => "STRING_AGG"

/-- Every aggregate. -/
def Aggregate.all : List Aggregate :=
  [.count, .sum, .average, .minimum, .maximum, .concatenation]

/-- The aggregate that a text names, in any case and between blanks. -/
def Aggregate.ofText? (text : String) : Option Aggregate :=
  Aggregate.all.find? fun aggregate ↦ aggregate.word == Text.capitals (Text.strip text)

/-- The aggregate applied to an expression in query text. Concatenation needs a separator, and its
argument is cast so that it applies to columns of every type. -/
def Aggregate.apply (aggregate : Aggregate) (expression : List Char) : List Char :=
  match aggregate with
  | .concatenation => "STRING_AGG(CAST(".toList ++ expression ++ " AS TEXT), ', ')".toList
  | aggregate => aggregate.word.toList ++ '(' :: expression ++ [')']

/-- A way to combine the rows of two tables. -/
inductive JoinKind where
  | inner
  | left
  | right
  | full
  | cross
deriving DecidableEq, Repr

/-- The word for a kind of join. -/
def JoinKind.word : JoinKind → String
  | .inner => "INNER"
  | .left => "LEFT"
  | .right => "RIGHT"
  | .full => "FULL"
  | .cross => "CROSS"

/-- Every kind of join. -/
def JoinKind.all : List JoinKind :=
  [.inner, .left, .right, .full, .cross]

/-- The kind of join that a text names, in any case and between blanks. Joins are inner unless
another kind is named. -/
def JoinKind.ofText? : Option String → JoinKind
  | none => .inner
  | some text =>
    let named (kind : JoinKind) : Bool := kind.word == Text.capitals (Text.strip text)
    (JoinKind.all.find? named).getD .inner

/-- A comparison of a column with a bound value. -/
inductive Comparison where
  | equal
  | notEqual
  | unequal
  | less
  | greater
  | atMost
  | atLeast
  | like
  | likeAnyCase
deriving DecidableEq, Repr

/-- The sign or word for a comparison. There are two signs for being different. -/
def Comparison.word : Comparison → String
  | .equal => "="
  | .notEqual => "!="
  | .unequal => "<>"
  | .less => "<"
  | .greater => ">"
  | .atMost => "<="
  | .atLeast => ">="
  | .like => "LIKE"
  | .likeAnyCase => "ILIKE"

/-- Every comparison. -/
def Comparison.all : List Comparison :=
  [.equal, .notEqual, .unequal, .less, .greater, .atMost, .atLeast, .like, .likeAnyCase]

/-- The operator of a filter: a comparison with a value, membership in a list of values, or a test
for the missing value. -/
inductive Operator where
  | compare (comparison : Comparison)
  | among
  | isNull
  | isNotNull
deriving DecidableEq, Repr

/-- The sign or words for an operator, with single blanks between words. -/
def Operator.words : Operator → String
  | .compare comparison => comparison.word
  | .among => "IN"
  | .isNull => "IS"
  | .isNotNull => "IS NOT"

/-- Every operator. -/
def Operator.all : List Operator :=
  Comparison.all.map .compare ++ [.among, .isNull, .isNotNull]

/-- The operator that a text names, in any case, with any blanks around and between words. -/
def Operator.ofText? (text : String) : Option Operator :=
  Operator.all.find? fun operator ↦ operator.words == Text.capitals (Text.collapse text)

/-- A direction of order. -/
inductive Direction where
  | ascending
  | descending
deriving DecidableEq, Repr

/-- The word for a direction. -/
def Direction.word : Direction → String
  | .ascending => "ASC"
  | .descending => "DESC"

/-- The direction that a text names, in any case. Order is ascending unless the other direction is
named. -/
def Direction.ofText? : Option String → Direction
  | none => .ascending
  | some text =>
    if Text.capitals text == Direction.descending.word then .descending else .ascending

end TenantReporting.Query
