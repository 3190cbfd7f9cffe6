import TenantReporting.Address
import TenantReporting.Binary64.Basic
import TenantReporting.Binary64.Layout
import TenantReporting.Binary64.Shortest
import TenantReporting.Calendar
import TenantReporting.DatabaseUrl
import TenantReporting.Failure
import TenantReporting.Json.Basic
import TenantReporting.Json.Display
import TenantReporting.Json.Printer
import TenantReporting.Json.Reader
import TenantReporting.Numeral
import TenantReporting.Proofs.Json.Display
import TenantReporting.Proofs.Outcome
import TenantReporting.Proofs.Query.Assertions
import TenantReporting.Proofs.Query.Compile
import TenantReporting.Proofs.Query.DatabaseName
import TenantReporting.Proofs.Query.Decoding
import TenantReporting.Proofs.Query.Form
import TenantReporting.Proofs.Query.Name
import TenantReporting.Proofs.Query.NamedStatement
import TenantReporting.Proofs.Query.NormalForm
import TenantReporting.Proofs.Query.Pervasive
import TenantReporting.Proofs.Query.Placeholders
import TenantReporting.Proofs.Query.Reader
import TenantReporting.Proofs.Query.Refusal
import TenantReporting.Proofs.Query.SingleStatement
import TenantReporting.Proofs.Query.Steps
import TenantReporting.Proofs.Query.Slots
import TenantReporting.Proofs.Query.Text
import TenantReporting.Proofs.Query.UniqueReading
import TenantReporting.Proofs.Query.Values
import TenantReporting.Proofs.Report.Execution
import TenantReporting.Proofs.Sql.Bond
import TenantReporting.Proofs.Sql.Clause
import TenantReporting.Proofs.Sql.Form
import TenantReporting.Proofs.Sql.Outline
import TenantReporting.Proofs.Sql.Spelling
import TenantReporting.Proofs.Tenancy.Disposal
import TenantReporting.Proofs.Tenancy.Pools
import TenantReporting.Proofs.Tenancy.Runs
import TenantReporting.Proofs.Tenancy.Statements
import TenantReporting.Query.Basic
import TenantReporting.Query.Binding
import TenantReporting.Query.Compile
import TenantReporting.Query.DatabaseName
import TenantReporting.Query.JoinCondition
import TenantReporting.Query.Limit
import TenantReporting.Query.Name
import TenantReporting.Query.Vocabulary
import TenantReporting.Report.Csv
import TenantReporting.Report.ExecutionLog
import TenantReporting.Report.Format
import TenantReporting.Report.Rendering
import TenantReporting.Report.Service
import TenantReporting.ReportConfig
import TenantReporting.Settings
import TenantReporting.Shape.Defect
import TenantReporting.Shape.Explanation
import TenantReporting.Shape.Reader
import TenantReporting.Sql.Bond
import TenantReporting.Sql.Clause
import TenantReporting.Sql.Form
import TenantReporting.Sql.Node
import TenantReporting.Sql.Outline
import TenantReporting.Sql.Pair
import TenantReporting.Sql.Reader
import TenantReporting.Sql.Statement
import TenantReporting.Sql.Token
import TenantReporting.Sql.Vocabulary
import TenantReporting.Tenancy.Backend
import TenantReporting.Tenancy.EngineOptions
import TenantReporting.Tenancy.Registry
import TenantReporting.Tenancy.Store
import TenantReporting.Text.Blank
import TenantReporting.Text.DecimalDigit
import TenantReporting.Text.Encoding
import TenantReporting.Text.Hex
import TenantReporting.Text.LetterCase
import TenantReporting.Text.Percent
import TenantReporting.Text.Printable
import TenantReporting.Text.Quoted
import TenantReporting.Text.StandIn
import TenantReporting.Text.Utf8
import TenantReporting.Text.WordCharacter
import TenantReporting.Web.Application
import TenantReporting.Web.Body
import TenantReporting.Web.Content
import TenantReporting.Web.CrossOrigin
import TenantReporting.Web.Exchange
import TenantReporting.Web.Headers
import TenantReporting.Web.HistoryRequest
import TenantReporting.Web.Host
import TenantReporting.Web.Observation
import TenantReporting.Web.Problem
import TenantReporting.Web.ReportRequest
import TenantReporting.Web.Request
import TenantReporting.Web.RequestLog
import TenantReporting.Web.Resource
import TenantReporting.Web.Response
import TenantReporting.Web.Status
import TenantReporting.Proofs.Tenancy.Accounts
import TenantReporting.Proofs.Tenancy.Recency
import TenantReporting.Proofs.Tenancy.Lifecycle
import TenantReporting.Proofs.Tenancy.Scopes
import TenantReporting.Proofs.Report.Calls
import TenantReporting.Proofs.Report.Refusals
import TenantReporting.Proofs.Binary64.Sign
import TenantReporting.Proofs.Report.Attempts
import TenantReporting.Proofs.Report.History
import TenantReporting.Proofs.Report.Isolation
import TenantReporting.Proofs.Report.Csv
import TenantReporting.Proofs.Web.Credentials
import TenantReporting.Proofs.Web.RequestLog
import TenantReporting.Proofs.Report.Misshapen
import TenantReporting.Proofs.Shape.Place
import TenantReporting.Proofs.Web.ServiceAgreement
import TenantReporting.Proofs.Binary64.Value
import TenantReporting.Proofs.Query.Limit
import TenantReporting.Proofs.Numeral
import TenantReporting.Proofs.Report.CommonReader
import TenantReporting.Proofs.Report.LineBreaks
import TenantReporting.Proofs.Report.Spelling
import TenantReporting.Proofs.Report.LostEntries
import TenantReporting.Proofs.Report.Newest
import TenantReporting.Proofs.Tenancy.Failures
import TenantReporting.Proofs.Tenancy.PoolNames
import TenantReporting.Proofs.Tenancy.StoreFaults
import TenantReporting.Proofs.Report.StoreFaults
import TenantReporting.Proofs.Web.StoreFaults
import TenantReporting.Proofs.Tenancy.TenantNames
import TenantReporting.Proofs.Query.JoinCondition
import TenantReporting.Proofs.Query.Leniency
import TenantReporting.Proofs.Query.Configuration
import TenantReporting.Proofs.Json.Equality
import TenantReporting.Proofs.Report.LogSession
import TenantReporting.Proofs.Shape.Conformance
import TenantReporting.Proofs.Shape.Grammar
import TenantReporting.Proofs.Shape.Reader
import TenantReporting.Proofs.Shape.Renaming
import TenantReporting.Proofs.Tenancy.Questions
import TenantReporting.Proofs.Tenancy.Visits
import TenantReporting.Proofs.Text.Run
import TenantReporting.Proofs.Text.StandIn
import TenantReporting.Proofs.Text.Strip
import TenantReporting.Proofs.Web.Answer
