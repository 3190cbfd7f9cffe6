import TenantReporting.Address
import TenantReporting.Numeral
import TenantReporting.Query.DatabaseName
import TenantReporting.Query.JoinCondition
import TenantReporting.Query.Vocabulary
import TenantReporting.Report.Format
import TenantReporting.Shape.Explanation
import TenantReporting.Sql.Outline
import TenantReporting.Text.StandIn

/-!
# Failures

Everything that can go wrong between a request and its report. The errors that reporting itself
defines form a small hierarchy of kinds: configurations and values that are refused before any store
is asked, and failures of the stores. Other failures are passed on as they are.
-/

namespace TenantReporting

/-- The kinds of reporting errors. -/
inductive ErrorKind where
  | general
  | configuration
  | unsupportedFormat
  | validation
  | invalidIdentifier
  | invalidAggregate
  | invalidJoinCondition
  | invalidOperator
  | invalidLimit
  | invalidTenant
  | execution
  | connectionUnavailable
deriving DecidableEq, Repr

namespace ErrorKind

/-- The public name of a kind. -/
def name : ErrorKind → String
  | general => "ReportError"
  | configuration => "ConfigurationError"
  | unsupportedFormat => "UnsupportedFormat"
  | validation => "ValidationError"
  | invalidIdentifier => "InvalidIdentifier"
  | invalidAggregate => "InvalidAggregate"
  | invalidJoinCondition => "InvalidJoinCondition"
  | invalidOperator => "InvalidOperator"
  | invalidLimit => "InvalidLimit"
  | invalidTenant => "InvalidTenant"
  | execution => "ExecutionError"
  | connectionUnavailable => "ConnectionUnavailable"

/-- Every kind. -/
def all : List ErrorKind :=
  [general, configuration, unsupportedFormat, validation, invalidIdentifier, invalidAggregate,
   invalidJoinCondition, invalidOperator, invalidLimit, invalidTenant, execution,
   connectionUnavailable]

/-- The kind with the given public name. -/
def named? (name : String) : Option ErrorKind :=
  all.find? fun kind ↦ kind.name == name

/-- The kind says that the report as asked for is refused, whatever the stores hold. -/
def isRefusal : ErrorKind → Bool
  | general | execution | connectionUnavailable => false
  | _ => true

/-- The status code with which an error of a kind is answered. -/
def status : ErrorKind → Nat
  | general => 500
  | execution => 422
  | connectionUnavailable => 503
  | _ => 400

end ErrorKind

/-- An error of reporting, by its cause. -/
inductive ReportError where
  | notAnObject
  | malformed (defects : List Shape.Defect)
  | noTables
  | noColumns
  | unknownFormat (given : String)
  | noRenderer (format : Report.Format)
  | name (role : String) (defect : Query.NameDefect)
  | aggregate (given : String)
  | join (defect : Query.JoinDefect)
  | notAList
  | notNull (operator : Query.Operator)
  | operator (given : String)
  | limitNotPositive
  | limitTooGreat (greatest : String)
  | tenant (defect : Query.TenantDefect)
  | execution (reason : String)
  | exhausted (database : String)
  | unreachable (database reason : String)
deriving Repr

namespace ReportError

/-- The kind of an error. -/
def kind : ReportError → ErrorKind
  | notAnObject => .configuration
  | malformed _ => .configuration
  | noTables => .configuration
  | noColumns => .configuration
  | unknownFormat _ => .unsupportedFormat
  | noRenderer _ => .unsupportedFormat
  | name _ _ => .invalidIdentifier
  | aggregate _ => .invalidAggregate
  | join _ => .invalidJoinCondition
  | notAList => .validation
  | notNull _ => .validation
  | operator _ => .invalidOperator
  | limitNotPositive => .invalidLimit
  | limitTooGreat _ => .invalidLimit
  | tenant _ => .invalidTenant
  | execution _ => .execution
  | exhausted _ => .connectionUnavailable
  | unreachable _ _ => .connectionUnavailable

/-- The wording of an error. Failures of the stores keep the wording of the store, and a malformed
configuration is explained defect by defect. -/
def message : ReportError → String
  | notAnObject => "Report configuration must be an object"
  | malformed defects =>
    "Malformed report configuration: " ++ Shape.explanation "ReportConfig" defects
  | noTables => "At least one table is required"
  | noColumns => "At least one column is required"
  | unknownFormat given => "Unknown report format: " ++ given
  | noRenderer format => "Format '" ++ format.name ++ "' requires an external renderer"
  | name role defect => defect.message role
  | aggregate given => "Invalid aggregate function: " ++ given
  | join defect => defect.message
  | notAList => "IN operator requires an array value"
  | notNull test => test.words ++ " operator can only be used with NULL"
  | operator given => "Invalid filter operator: " ++ given
  | limitNotPositive => "Limit must be a positive integer"
  | limitTooGreat greatest => "Limit cannot exceed " ++ greatest
  | tenant defect => defect.message
  | execution reason => reason
  | exhausted database => "Connection pool for tenant " ++ database ++ " is exhausted"
  | unreachable database reason =>
    "Cannot connect to tenant database " ++ database ++ ": " ++ reason

end ReportError

/-- The kinds of faults of a store: of its driver, of the layer that speaks to the driver, a wait
for a connection that took too long, and faults of no known kind. -/
inductive StoreFaultKind where
  | driver
  | layer
  | timeout
  | other
deriving DecidableEq, Repr

/-- The public name of a kind of store fault. -/
def StoreFaultKind.name : StoreFaultKind → String
  | driver => "OperationalError"
  | layer => "SQLAlchemyError"
  | timeout => "TimeoutError"
  | other => "RuntimeError"

/-- A fault of a store. -/
structure StoreFault where
  kind : StoreFaultKind
  message : String
deriving DecidableEq, Repr

/-- Why a row cannot be written as a record, or something given as rows cannot be used so. -/
inductive RowDefect where
  | notIndexed (kind : String)
  | notCounted (kind : String)
  | noKeys (kind : String)
  | notIterable (kind : String)
  | notPaired (index : Nat)
  | notTwo (index length : Nat)
  | unfitKey (kind : String)
  | noSuchRow
deriving DecidableEq, Repr

/-- The public name of a row defect. -/
def RowDefect.name : RowDefect → String
  | .notIndexed _ => "TypeError"
  | .notCounted _ => "TypeError"
  | .noKeys _ => "AttributeError"
  | .notIterable _ => "TypeError"
  | .notPaired _ => "TypeError"
  | .notTwo _ _ => "ValueError"
  | .unfitKey _ => "TypeError"
  | .noSuchRow => "KeyError"

/-- The wording of a row defect. -/
def RowDefect.message : RowDefect → String
  | .notIndexed kind => "'" ++ kind ++ "' object is not subscriptable"
  | .notCounted kind => "object of type '" ++ kind ++ "' has no len()"
  | .noKeys kind => "'" ++ kind ++ "' object has no attribute 'keys'"
  | .notIterable kind => "'" ++ kind ++ "' object is not iterable"
  | .notPaired index =>
    s!"cannot convert dictionary update sequence element #{index} to a sequence"
  | .notTwo index length =>
    s!"dictionary update sequence element #{index} has length {length}; 2 is required"
  | .unfitKey kind => "unhashable type: '" ++ kind ++ "'"
  | .noSuchRow => "0"

/-- A failure of any origin. -/
inductive Failure where
  | report (error : ReportError)
  | store (fault : StoreFault)
  | released
  | emptyRegistry
  | numeral (fault : Numeral.Fault)
  | unvalidatedName
  | notSingleSelect
  | excess (reason : Sql.Excess)
  | misshapen (model : String) (defects : List Shape.Defect)
  | row (defect : RowDefect)
  | missingColumn (name : String)
  | notWritable
  | unprintableNumber
  | unencodable (fault : Text.EncodingFault)
  | unserializable (fault : Text.EncodingFault)
  | address (fault : AddressFault)
deriving Repr

namespace Failure

/-- The public name of a failure. -/
def name : Failure → String
  | report error => error.kind.name
  | store fault => fault.kind.name
  | released => "RuntimeError"
  | emptyRegistry => "KeyError"
  | numeral _ => "ValueError"
  | unvalidatedName => "ValueError"
  | notSingleSelect => "ValueError"
  | excess _ => "SQLParseError"
  | misshapen _ _ => "ValidationError"
  | row defect => defect.name
  | missingColumn _ => "IntegrityError"
  | notWritable => "OperationalError"
  | unprintableNumber => "ValueError"
  | unencodable _ => "UnicodeEncodeError"
  | unserializable _ => "PydanticSerializationError"
  | address fault => fault.name

/-- The wording of a failure. -/
def message : Failure → String
  | report error => error.message
  | store fault => fault.message
  | released => "Connection has already been released"
  | emptyRegistry => "'dictionary is empty'"
  | numeral fault => fault.message
  | unvalidatedName => "quote_identifier() requires a validated identifier"
  | notSingleSelect => "Assembled report query is not a single SELECT statement"
  | excess reason => reason.message
  | misshapen model defects => Shape.explanation model defects
  | row defect => defect.message
  | missingColumn name => "NOT NULL constraint failed: report_execution_logs." ++ name
  | notWritable => "disk full"
  | unprintableNumber => "Out of range float values are not JSON compliant"
  | unencodable fault => fault.message
  | unserializable fault => "Error serializing to JSON: UnicodeEncodeError: " ++ fault.message
  | address fault => fault.message

/-- The defects of shape behind a failure. -/
def defects? : Failure → Option (List Shape.Defect)
  | report (.malformed defects) => some defects
  | misshapen _ defects => some defects
  | _ => none

end Failure

end TenantReporting
