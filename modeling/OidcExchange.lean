import OidcExchange.Process.Program
import OidcExchange.Process.Budget
import OidcExchange.Process.Interpret
import OidcExchange.Process.Pool
import OidcExchange.Process.Discipline
import OidcExchange.Process.Sequential
import OidcExchange.Process.Along
import OidcExchange.Process.Auxiliary
import OidcExchange.Process.Trace
import OidcExchange.Process.Totals
import OidcExchange.Store.Versioned
import OidcExchange.Data.DateTime
import OidcExchange.Data.Text
import OidcExchange.Data.Decimal
import OidcExchange.Data.Separated
import OidcExchange.Data.Substrings
import OidcExchange.Data.Spacing
import OidcExchange.Data.SinglePass
import OidcExchange.GitHub.Claims
import OidcExchange.GitHub.RunAttempt
import OidcExchange.GitHub.References
import OidcExchange.GitHub.Provenance
import OidcExchange.GitHub.Subject
import OidcExchange.GitHub.Policy
import OidcExchange.Workload.Policy
import OidcExchange.Workload.TokenReview
import OidcExchange.Oidc.Claims
import OidcExchange.Replay.Lease
import OidcExchange.Replay.Ledger
import OidcExchange.Replay.Api
import OidcExchange.Replay.Safety
import OidcExchange.Replay.Calls
import OidcExchange.Replay.AtMostOnce
import OidcExchange.Replay.Traffic
import OidcExchange.Replay.Genuine
import OidcExchange.Replay.Readiness
import OidcExchange.Replay.Refinement
import OidcExchange.Jwks.Cache
import OidcExchange.Service.Exchange
import OidcExchange.Service.Stages
import OidcExchange.Service.Concurrent
import OidcExchange.Service.Counters
import OidcExchange.GitHub.Verify
import OidcExchange.Service.SingleIssuance
import OidcExchange.Jwks.Lookup
import OidcExchange.Jwks.Machine
import OidcExchange.Jwks.Refresh
import OidcExchange.Jwks.Invariant
import OidcExchange.Jwks.Tasks
import OidcExchange.Jwks.Freshness
import OidcExchange.Jwks.Traffic
import OidcExchange.Jwks.Verdict
import OidcExchange.Jwks.Progress
import OidcExchange.Jwks.Outbound
import OidcExchange.Jwks.Rotation
import OidcExchange.Oidc.Policy
import OidcExchange.GitHub.Validation
import OidcExchange.GitHub.Identity
import OidcExchange.Workload.Validation
import OidcExchange.Policy.Reordering
import OidcExchange.Policy.Emails
import OidcExchange.Data.Framing
import OidcExchange.Oidc.Verify
import OidcExchange.Oidc.Isolation
import OidcExchange.Oidc.Replay
import OidcExchange.Service.ReplayKeys
import OidcExchange.Browser.Verify
import OidcExchange.Service.Subjects
import OidcExchange.Keys.Rotation
import OidcExchange.Keys.Generate
import OidcExchange.Keys.Readiness
import OidcExchange.Keys.Publication
import OidcExchange.Service.Admission
import OidcExchange.Service.TaskExchange
import OidcExchange.Http.Message
import OidcExchange.Http.Exposition
import OidcExchange.Http.Handlers
import OidcExchange.Http.Router
import OidcExchange.Http.Conduct
import OidcExchange.Http.Listener
import OidcExchange.Http.Readiness
import OidcExchange.Http.Confirmation
import OidcExchange.Keys.Crash
import OidcExchange.Browser.Load
import OidcExchange.Startup.Config
import OidcExchange.Startup.Main
import OidcExchange.Startup.FailClosed
import OidcExchange.Replay.Draining
import OidcExchange.Policy.Extension
import OidcExchange.Keys.CommandLine
import OidcExchange.Service.Accounting
