/-
# The network transport

The network transport makes one exchange and repeats nothing.  It gives up as soon as the context of
the request is over.

* `NetworkConfig`: its settings; `NetworkConfig.build` refuses a user agent that no header can hold.
* `Transport.network`: one exchange, told in the trace.
* `NetworkFault`: how an exchange can fail, with what the network library says of it.
-/
import Resilience.Pipeline

namespace Resilience

/-- How an exchange can fail. -/
inductive NetworkFault where
  | connect
  | timeout
  | address (url : Url)
  | settings
deriving DecidableEq

/-- What the network library says of it. -/
def NetworkFault.report : NetworkFault → NetworkError
  | .connect => { isConnect := true, isRequest := true, message := "error sending request" }
  | .timeout => { isTimeout := true, isRequest := true, message := "error sending request" }
  | .address url =>
    { isBuilder := true
      message := "builder error for url (" ++ url.withoutCredentials.text ++ ")" }
  | .settings => { isBuilder := true, message := "builder error" }

/-- The error that the caller gets. -/
def NetworkFault.error (f : NetworkFault) : HttpError := f.report.error

/-- The settings of a network transport. -/
structure NetworkConfig where
  timeout : Duration := .ofMillis 30000
  connectTimeout : Option Duration := none
  userAgent : Option String := none
  defaultHeaders : Option Headers := none

namespace NetworkConfig

/-- Bounds the time for connecting; zero leaves it unbounded. -/
def withConnectTimeout (c : NetworkConfig) (d : Duration) : NetworkConfig :=
  { c with connectTimeout := if d.isZero then none else some d }

/-- The settings that a client has for its transport. -/
def ofConfig (c : TransportConfig) : NetworkConfig :=
  { ({ timeout := c.timeout } : NetworkConfig).withConnectTimeout c.connectTimeout with
    userAgent := c.userAgent }

/-- Passes if a header can hold the user agent. -/
def build (c : NetworkConfig) : Except HttpError Unit :=
  match c.userAgent with
  | none => .ok ()
  | some agent =>
    if Headers.isValue agent.toUTF8 then .ok () else .error NetworkFault.settings.error

/-- The settings as a record. -/
def describe (c : NetworkConfig) : String :=
  Text.record "ReqwestTransportBuilder"
    [("timeout", c.timeout.text),
     ("connect_timeout", Text.optional (c.connectTimeout.map Duration.text)),
     ("user_agent", Text.optional (c.userAgent.map Text.quoted)),
     ("default_headers", Text.optional (c.defaultHeaders.map Headers.describe))]

end NetworkConfig

namespace Transport

/-- One exchange over the network. -/
def network : Transport := fun request => do
  match ← .query .context with
  | some reason => pure (.error (.ofContext reason))
  | none =>
    .trace (.debug "sending HTTP request"
      [("method", request.method), ("url", request.url.text)])
    match ← .query (.exchange request) with
    | .ok r =>
      .trace (.debug "received HTTP response" [("status", r.status.text)])
      pure (.ok r)
    | .error e => pure (.error e)

/-- The network transport as a record. -/
def networkDescription : String := Text.openRecord "ReqwestTransport"

end Transport

end Resilience
