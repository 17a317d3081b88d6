import BearerTokens.Simulation.KeySetRun
import BearerTokens.Simulation.ServiceRun
import BearerTokens.Proofs.TokenCache.Move
import BearerTokens.Proofs.TokenCache.History
import BearerTokens.Proofs.TokenCache.Record
import BearerTokens.Proofs.TokenCache.SingleFlight
import BearerTokens.Proofs.TokenCache.Attendance
import BearerTokens.Proofs.TokenCache.Content
import BearerTokens.Proofs.TokenCache.Settlement
import BearerTokens.Proofs.TokenCache.FanOut
import BearerTokens.Proofs.TokenCache.Receipt
import BearerTokens.Proofs.Token.Lifetime
import BearerTokens.Proofs.Token.Response
import BearerTokens.Proofs.TokenCache.Economy
import BearerTokens.Proofs.TokenCache.Waiting
import BearerTokens.Proofs.TokenCache.Endings
import BearerTokens.Proofs.TokenCache.Ownership
import BearerTokens.Proofs.Grant.Body
import BearerTokens.Proofs.KeySet.Guard
import BearerTokens.Proofs.KeySetCache.Move
import BearerTokens.Proofs.KeySetCache.Tie
import BearerTokens.Proofs.KeySetCache.Download
import BearerTokens.Proofs.KeySetCache.Exclusion
import BearerTokens.Proofs.KeySetCache.History
import BearerTokens.Proofs.KeySetCache.Record
import BearerTokens.Proofs.KeySetCache.Reclaim
import BearerTokens.Proofs.KeySetCache.Content
import BearerTokens.Proofs.KeySetCache.Verification
import BearerTokens.Proofs.KeySetCache.Rejection
import BearerTokens.Proofs.KeySetCache.Waiting
import BearerTokens.Proofs.KeySetCache.Transparency
import BearerTokens.Proofs.KeySetCache.Lanes
import BearerTokens.Proofs.KeySetCache.Turns
import BearerTokens.Proofs.KeySetCache.Pacing
import BearerTokens.Proofs.KeySetCache.Refetch
import BearerTokens.Proofs.KeySetCache.Calls
import BearerTokens.Proofs.KeySetCache.Balance
import BearerTokens.Proofs.KeySetCache.Coalescing
import BearerTokens.Proofs.KeySetCache.Standstill
import BearerTokens.Proofs.KeySetCache.Independence
import BearerTokens.Proofs.TokenCache.Forgetting
import BearerTokens.Proofs.TokenCache.Cancellation
import BearerTokens.Proofs.Telemetry
import BearerTokens.Proofs.TokenCache.Metrics
import BearerTokens.Proofs.KeySetCache.Metrics
import BearerTokens.Proofs.Metrics
import BearerTokens.Proofs.Grant.Secret
import BearerTokens.Proofs.TokenCache.Lockstep
import BearerTokens.Proofs.Service.Lockstep
import BearerTokens.Proofs.Service.Secrecy
import BearerTokens.Proofs.TokenCache.Foresight
import BearerTokens.Proofs.Token.Span
import BearerTokens.Proofs.Token.Claim
import BearerTokens.Proofs.Token.Exchange
import BearerTokens.Proofs.Text.Blank
import BearerTokens.Proofs.Scopes
import BearerTokens.Proofs.Grant.Resolve
import BearerTokens.Proofs.Service.Activation
import BearerTokens.Proofs.Text.Percent
import BearerTokens.Proofs.Url.Numeral
import BearerTokens.Proofs.Url.Ipv6
import BearerTokens.Proofs.Url.Host
import BearerTokens.Proofs.Url.Authority
import BearerTokens.Proofs.Url.Path
import BearerTokens.Proofs.Url.Canonical
import BearerTokens.Proofs.Grant.Idempotence
import BearerTokens.Proofs.Json.Written
import BearerTokens.Proofs.Json.Unique
import BearerTokens.Proofs.Scopes.Document
import BearerTokens.Proofs.Grant.Document
import BearerTokens.Proofs.Service.Headers
import BearerTokens.Proofs.Http.Target
import BearerTokens.Proofs.Service.Requests
import BearerTokens.Proofs.Crypto.Modular
import BearerTokens.Proofs.Url.KeySet
