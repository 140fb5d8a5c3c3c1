/-
# Clients

A client is a layer together with the settings that it was made from.  Settings are checked when a
client or a layer is made, so a layer always has valid ones.

* `Layer.build`: a layer around a transport, or the first fault in its settings.
* `Client`, `Client.build`: the same for a client, which checks all its settings first.
* `Layer.describe`, `Client.describe`: both as records.
-/
import Resilience.Http.Network

namespace Resilience

/-- What a layer is made from. -/
structure LayerConfig where
  breaker : BreakerConfig := {}
  retry : RetryConfig := {}
  serverErrorThreshold : UInt16 := 500

/-- The part of a client's settings that its layer is made from. -/
def ClientConfig.layer (c : ClientConfig) : LayerConfig where
  breaker := c.breaker
  retry := c.retry
  serverErrorThreshold := c.serverErrorThreshold

namespace Layer

/-- Makes a layer.  There has to be a transport inside; then the threshold, the breaker and the
retries are checked. -/
def build (index : Nat) (hasInner : Bool) (c : LayerConfig) : Except ConfigFault Layer := do
  demand hasInner .innerTransport
  validateThreshold c.serverErrorThreshold
  c.breaker.validate
  c.retry.validate
  pure
    { index
      policy := ⟨c.breaker.enabled, c.retry.enabled, c.serverErrorThreshold⟩
      breaker := c.breaker
      strategy := c.retry.strategy }

/-- The layer as a record, around a transport that is described by `inner`. -/
def describe (l : Layer) (inner : String) (s : BreakerState) : String :=
  Text.record "ResilientTransport"
    [("inner", inner),
     ("breaker", s.describe l.breaker),
     ("strategy", l.strategy.describe),
     ("policy", l.policy.describe)]

end Layer

/-- A layer with the settings that it was made from. -/
structure Client where
  layer : Layer
  config : ClientConfig

namespace Client

/-- Makes a client around a transport that is given. -/
def build (index : Nat) (c : ClientConfig) : Except HttpError Client := do
  match c.validate with
  | .error f => throw (.config f)
  | .ok () =>
    match Layer.build index true c.layer with
    | .error f => throw (.config f)
    | .ok layer => pure { layer, config := c }

/-- Makes a client around a network transport of its own. -/
def buildOverNetwork (index : Nat) (c : ClientConfig) : Except HttpError Client := do
  match c.validate with
  | .error f => throw (.config f)
  | .ok () =>
    (NetworkConfig.ofConfig c.transport).build
    build index c

/-- The client as a record. -/
def describe (c : Client) (inner : String) (s : BreakerState) : String :=
  Text.record "Client" [("transport", c.layer.describe inner s)]

end Client

end Resilience
