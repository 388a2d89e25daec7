import ApiClient.Auth.Credential
import ApiClient.Auth.DotEnv
import ApiClient.Auth.Environment
import ApiClient.Auth.Operation
import ApiClient.Auth.Resolver
import ApiClient.Auth.Signature
import ApiClient.Calls
import ApiClient.Client
import ApiClient.Config
import ApiClient.Digest.Sha512
import ApiClient.Echo
import ApiClient.Errors.Basic
import ApiClient.Errors.Body
import ApiClient.Errors.Classify
import ApiClient.Fault
import ApiClient.Http.Body
import ApiClient.Http.Charset
import ApiClient.Http.Cookie.Basic
import ApiClient.Http.Cookie.Fields
import ApiClient.Http.Cookie.Jar
import ApiClient.Http.Cookie.Site
import ApiClient.Http.Headers
import ApiClient.Http.Percent
import ApiClient.Http.Redirect
import ApiClient.Http.Request
import ApiClient.Http.Response
import ApiClient.Http.Url.Basic
import ApiClient.Http.Url.Form
import ApiClient.Http.Url.Host
import ApiClient.Http.Url.Parse
import ApiClient.Http.Url.Reference
import ApiClient.Json.Basic
import ApiClient.Json.Bytes
import ApiClient.Json.Literal
import ApiClient.Json.Printer
import ApiClient.Json.Reader
import ApiClient.Kept
import ApiClient.Log
import ApiClient.Metrics
import ApiClient.Number.Binary64
import ApiClient.Number.Integer
import ApiClient.Outside
import ApiClient.Pagination.Listing
import ApiClient.Pagination.Page
import ApiClient.Pagination.Scan
import ApiClient.Pagination.Session
import ApiClient.Pagination.Stream
import ApiClient.Platform
import ApiClient.Proofs.Auth.Attempt
import ApiClient.Proofs.Auth.Edit
import ApiClient.Proofs.Auth.Frame
import ApiClient.Proofs.Auth.Gaps
import ApiClient.Proofs.Auth.Reading
import ApiClient.Proofs.Auth.Renewal
import ApiClient.Proofs.Auth.Secrecy
import ApiClient.Proofs.Auth.Signature
import ApiClient.Proofs.Auth.SignedText
import ApiClient.Proofs.Auth.Variables
import ApiClient.Proofs.Auth.Verifier
import ApiClient.Proofs.Client.Accounting
import ApiClient.Proofs.Client.Alike
import ApiClient.Proofs.Client.Destination
import ApiClient.Proofs.Client.Echo
import ApiClient.Proofs.Client.Exchange
import ApiClient.Proofs.Client.Forwarded
import ApiClient.Proofs.Client.Kept
import ApiClient.Proofs.Client.Log
import ApiClient.Proofs.Client.Observed
import ApiClient.Proofs.Client.Received
import ApiClient.Proofs.Client.Sent
import ApiClient.Proofs.Client.Session
import ApiClient.Proofs.Client.SignedBody
import ApiClient.Proofs.Client.Signing
import ApiClient.Proofs.Client.Stages
import ApiClient.Proofs.Client.StandIn
import ApiClient.Proofs.Config.Build
import ApiClient.Proofs.Config.Environment
import ApiClient.Proofs.Config.Options
import ApiClient.Proofs.Config.Place
import ApiClient.Proofs.Errors.Classification
import ApiClient.Proofs.Errors.RoundTrip
import ApiClient.Proofs.Errors.Taxonomy
import ApiClient.Proofs.Http.Body
import ApiClient.Proofs.Http.Charset
import ApiClient.Proofs.Http.Headers
import ApiClient.Proofs.Http.Place
import ApiClient.Proofs.Http.Rows
import ApiClient.Proofs.Http.Site
import ApiClient.Proofs.Http.Unsettled
import ApiClient.Proofs.Json.Nesting
import ApiClient.Proofs.Json.Printing
import ApiClient.Proofs.Json.Reading
import ApiClient.Proofs.Json.Text
import ApiClient.Proofs.Json.Tokens
import ApiClient.Proofs.Number.Integer
import ApiClient.Proofs.Pagination.Cancellation
import ApiClient.Proofs.Pagination.Course
import ApiClient.Proofs.Pagination.Delivery
import ApiClient.Proofs.Pagination.Failure
import ApiClient.Proofs.Pagination.Handover
import ApiClient.Proofs.Pagination.Interruption
import ApiClient.Proofs.Pagination.Pace
import ApiClient.Proofs.Pagination.Parameters
import ApiClient.Proofs.Pagination.Scanning
import ApiClient.Proofs.Pagination.Search
import ApiClient.Proofs.Pagination.Step
import ApiClient.Proofs.Pagination.Waiting
import ApiClient.Proofs.Pagination.Walk
import ApiClient.Proofs.Text.Ascii
import ApiClient.Proofs.Text.Base64
import ApiClient.Proofs.Text.Lines
import ApiClient.Proofs.Text.Utf8
import ApiClient.Proofs.Trace.Canonical
import ApiClient.Proofs.Trace.Message
import ApiClient.Proofs.Trace.NameOrder
import ApiClient.Proofs.Trace.Redaction
import ApiClient.Proofs.Trace.Render
import ApiClient.Proofs.Trace.Unreadable
import ApiClient.StandIn
import ApiClient.Text.Base64
import ApiClient.Text.Case
import ApiClient.Text.CaseTable
import ApiClient.Text.Character
import ApiClient.Text.Encoding
import ApiClient.Text.Quoted
import ApiClient.Text.Utf8
import ApiClient.Text.Wide
import ApiClient.Time.CookieDate
import ApiClient.Time.HttpDate
import ApiClient.Trace
import ApiClient.Transport
