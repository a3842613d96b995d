import Formulary.Calendar
import Formulary.Checked.Basic
import Formulary.Checked.Reader
import Formulary.CommandLine
import Formulary.Debounce
import Formulary.Document.Preparation
import Formulary.Document.Submission
import Formulary.Entries
import Formulary.Failure
import Formulary.Fault
import Formulary.Field.Basic
import Formulary.Field.Default
import Formulary.Field.Kind
import Formulary.FieldGroup
import Formulary.Http.Handler
import Formulary.Http.Message
import Formulary.Http.Route
import Formulary.Identity
import Formulary.Json.Reader
import Formulary.Json.Writer
import Formulary.LogSetup
import Formulary.Main
import Formulary.Notice
import Formulary.Number.Binary64
import Formulary.Number.Decimal
import Formulary.Number.Layout
import Formulary.Number.Shortest
import Formulary.Outcome
import Formulary.Proofs.Checked.Supplied
import Formulary.Proofs.Debounce.Saved
import Formulary.Proofs.Debounce.Timeline
import Formulary.Proofs.Document.Acceptance
import Formulary.Proofs.Document.Complaints
import Formulary.Proofs.Document.Conformance
import Formulary.Proofs.Document.Preparation
import Formulary.Proofs.Document.Submission
import Formulary.Proofs.Field.ReadBack
import Formulary.Proofs.Http.Anonymous
import Formulary.Proofs.Http.Paths
import Formulary.Proofs.Http.Publishable
import Formulary.Proofs.Http.Published
import Formulary.Proofs.Http.Requests
import Formulary.Proofs.Http.Served
import Formulary.Proofs.Schema.Compile
import Formulary.Proofs.Schema.Defaults
import Formulary.Proofs.Schema.Definitions
import Formulary.Proofs.Schema.LastDefinitions
import Formulary.Proofs.Schema.Payload
import Formulary.Proofs.Schema.Unchecked
import Formulary.Proofs.Schema.Violations
import Formulary.Proofs.Service.Atomicity
import Formulary.Proofs.Service.Effect
import Formulary.Proofs.Service.LastWrite
import Formulary.Proofs.Service.Ledger
import Formulary.Proofs.Service.LiveRows
import Formulary.Proofs.Service.Noninterference
import Formulary.Proofs.Service.Payloads
import Formulary.Proofs.Service.Reachable
import Formulary.Proofs.Service.Replay
import Formulary.Proofs.Service.Resolved
import Formulary.Proofs.Service.Restated
import Formulary.Proofs.Service.Schemas
import Formulary.Proofs.Service.Session
import Formulary.Proofs.Service.StorageFaults
import Formulary.Proofs.Service.StrictWrites
import Formulary.Proofs.Store.Revision
import Formulary.Proofs.Store.Sendable
import Formulary.Proofs.Store.Table
import Formulary.Proofs.Store.WellFormed
import Formulary.Proofs.Template.Draft
import Formulary.Proofs.Template.Stored
import Formulary.Proofs.Value.Names
import Formulary.Proofs.Value.Sendable
import Formulary.Scalar
import Formulary.Schema.Basic
import Formulary.Schema.Check
import Formulary.Schema.Compile
import Formulary.Server
import Formulary.Service.Basic
import Formulary.Service.Documents
import Formulary.Service.Operation
import Formulary.Service.Templates
import Formulary.Store.Basic
import Formulary.Store.Row
import Formulary.Supplied
import Formulary.Template.Draft
import Formulary.Template.View
import Formulary.Text.Basic
import Formulary.Text.Blank
import Formulary.Text.CodePoint
import Formulary.Text.DateTime
import Formulary.Text.Digit
import Formulary.Text.Encoding
import Formulary.Text.Escaped
import Formulary.Text.Hex
import Formulary.Text.Percent
import Formulary.Text.Printable
import Formulary.Text.Quoted
import Formulary.Text.Uri
import Formulary.Text.Utf8
import Formulary.Value.Basic
import Formulary.Value.Shown
