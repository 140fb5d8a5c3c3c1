import Resilience.Backoff
import Resilience.Breaker.Basic
import Resilience.Breaker.Call
import Resilience.Breaker.Document
import Resilience.Breaker.Section
import Resilience.Client
import Resilience.Clock
import Resilience.Config.Basic
import Resilience.Config.Document
import Resilience.Config.Environment
import Resilience.Config.Files
import Resilience.Config.Loading
import Resilience.Context
import Resilience.Counter
import Resilience.Decimal.Dyadic
import Resilience.Decimal.Reader
import Resilience.Decimal.Shortest
import Resilience.Document
import Resilience.Duration.Basic
import Resilience.Duration.Range
import Resilience.Duration.Seconds
import Resilience.Duration.Text
import Resilience.Http.Building
import Resilience.Http.Headers
import Resilience.Http.Network
import Resilience.Http.Request
import Resilience.Http.Response
import Resilience.Http.Status
import Resilience.Json.Document
import Resilience.Json.Token
import Resilience.Json.Tree
import Resilience.Json.Value
import Resilience.Observer
import Resilience.Pipeline
import Resilience.Program
import Resilience.Proofs.Breaker.CoolDown
import Resilience.Proofs.Breaker.History
import Resilience.Proofs.Breaker.Invariant
import Resilience.Proofs.Breaker.Linearization
import Resilience.Proofs.Breaker.Notices
import Resilience.Proofs.Breaker.Recovery
import Resilience.Proofs.Breaker.Tripping
import Resilience.Proofs.Config.Agreement
import Resilience.Proofs.Config.Doubles
import Resilience.Proofs.Config.Fields
import Resilience.Proofs.Config.Layering
import Resilience.Proofs.Config.Loading
import Resilience.Proofs.Config.Overrides
import Resilience.Proofs.Config.RoundTrip
import Resilience.Proofs.Config.Validity
import Resilience.Proofs.Config.Values
import Resilience.Proofs.Pipeline.Backoff
import Resilience.Proofs.Pipeline.Course
import Resilience.Proofs.Pipeline.Heed
import Resilience.Proofs.Pipeline.Ledger
import Resilience.Proofs.Pipeline.Loop
import Resilience.Proofs.Pipeline.Nesting
import Resilience.Proofs.Pipeline.Outcome
import Resilience.Proofs.Pipeline.Pace
import Resilience.Proofs.Pipeline.Payload
import Resilience.Proofs.Pipeline.Rejection
import Resilience.Proofs.Pipeline.Unbuilt
import Resilience.Proofs.Program.Interleaving
import Resilience.Proofs.Program.Run
import Resilience.Proofs.Program.Steady
import Resilience.Proofs.Program.Timed
import Resilience.Severity
import Resilience.Simulation.Network
import Resilience.Simulation.Run
import Resilience.Simulation.Scene
import Resilience.Simulation.Task
import Resilience.Simulation.World
import Resilience.Text.Blank
import Resilience.Text.Printable
import Resilience.Text.Quoted
import Resilience.Text.Record
import Resilience.Text.Utf8
import Resilience.Toml.Reader
import Resilience.Toml.Scalar
import Resilience.Toml.Scan
import Resilience.Toml.Table
import Resilience.Toml.Text
import Resilience.Trace
import Resilience.Url.Basic
import Resilience.Url.Domain
import Resilience.Url.Fault
import Resilience.Url.Host
import Resilience.Url.Number
import Resilience.Url.Percent
import Resilience.Url.Punycode
import Resilience.Url.Reader
import Resilience.Proofs.Context.Family
import Resilience.Proofs.Pipeline.Delays
import Resilience.Proofs.Pipeline.Replay
import Resilience.Proofs.Pipeline.Single
import Resilience.Proofs.Pipeline.FailFast
