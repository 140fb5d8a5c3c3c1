/-
# The pipeline: breaker and retries around a transport

A transport makes one exchange for a request.  A layer wraps a transport: it asks its breaker before
the first attempt, reports every attempt to breaker and observer, and repeats failed attempts after a
delay.  A layer is a transport itself, so layers nest.

Per request:

1. A context that is over, then an open breaker, end the request before any attempt.
2. A response below the failing statuses ends it well.
3. An error of the caller ends it without a report.
4. Any other failure is reported.  If attempts are left and the body can be had again, the next attempt
   follows after a delay, unless the context ends before.

* `Transport`: what makes an exchange.
* `Policy`, `Layer`: the switches and the parts of a layer.
* `Layer.send`: a request through the layer.
* `Transport.layered`: layers around a transport, one within the other.
-/
import Resilience.Backoff
import Resilience.Breaker.Call

namespace Resilience

/-- What makes an exchange for a request. -/
abbrev Transport := Request → Program Outcome

/-- The switches of a layer. -/
structure Policy where
  breakerEnabled : Bool
  retryEnabled : Bool
  serverErrorThreshold : UInt16
deriving DecidableEq

/-- The switches as a record. -/
def Policy.describe (p : Policy) : String :=
  Text.record "ResiliencePolicy"
    [("circuit_breaker_enabled", Text.truth p.breakerEnabled),
     ("retry_enabled", Text.truth p.retryEnabled),
     ("server_error_threshold", toString p.serverErrorThreshold.toNat)]

/-- A layer around a transport. -/
structure Layer where
  /-- The number under which its breaker, observer and source of randomness are known. -/
  index : Nat
  policy : Policy
  breaker : BreakerConfig
  strategy : Strategy

/-- What an attempt comes to. -/
inductive Verdict where
  | success (r : Response)
  | aborted (e : HttpError)
  | failure (f : LastFailure)

/-- The outcome of a failure in the record of an attempt. -/
def LastFailure.outcome : LastFailure → AttemptOutcome
  | .error e => .transportError e.message
  | .response r => .serverError r.status.code

namespace Layer

/-- The number of attempts that a request may take. -/
def budget (l : Layer) : Nat :=
  if l.policy.retryEnabled then max l.strategy.maxAttempts.toNat 1 else 1

/-- What the end of an exchange comes to. -/
def judge (l : Layer) : Outcome → Verdict
  | .ok r =>
    if r.status.code < l.policy.serverErrorThreshold.toNat then .success r
    else .failure (.response r)
  | .error e => if e.isDependencyFailure then .failure (.error e) else .aborted e

/-- The record of an attempt. -/
def record (request : Request) (attempt : Nat) (outcome : AttemptOutcome) (backoff : Option Duration) :
    AttemptRecord where
  attempt := attempt
  method := request.method
  url := request.url.text
  outcome := outcome
  backoff := backoff

/-- Ends a request after a good response. -/
def succeed (l : Layer) (request : Request) (attempt : Nat) (r : Response) : Program Outcome := do
  if l.policy.breakerEnabled then Breaker.onSuccess l.index l.breaker
  .trace (.debug "attempt succeeded"
    [("attempt", toString attempt), ("status", toString r.status.code)])
  .observe l.index (.attempt (record request attempt (.success r.status.code) none))
  pure (.ok r)

/-- Ends a request after the last failure.  Without retries an error is passed on as it is. -/
def giveUp (l : Layer) (attempt : Nat) (f : LastFailure) : Program Outcome := do
  let exhausted : Program Outcome := do
    .trace (.warn "retries exhausted" [("attempts", toString (attempt + 1)), ("error", f.message)])
    pure (.error (.maxRetriesExceeded (attempt + 1) f))
  match f with
  | .error e =>
    if l.policy.retryEnabled then exhausted
    else
      .trace (.debug "attempt failed, retries disabled"
        [("attempt", toString attempt), ("error", e.message)])
      pure (.error e)
  | .response _ => exhausted

/-- Goes on after a failure that is not the last one: with the `next` attempt after a delay, if the body
can be had again and the context does not end before. -/
def backOff (l : Layer) (request : Request) (attempt : Nat) (f : LastFailure)
    (next : Program Outcome) : Program Outcome := do
  if request.isReplayable then
    let delay ← l.strategy.nextBackoff l.index attempt
    .observe l.index (.attempt (record request attempt f.outcome (some delay)))
    .trace (.debug "attempt failed, backing off"
      [("attempt", toString attempt), ("delay_ms", toString delay.millis64.toNat),
       ("error", f.message)])
    match ← .query (.pause delay) with
    | some reason => pure (.error (.ofContext reason))
    | none => next
  else
    .observe l.index (.attempt (record request attempt f.outcome none))
    .trace (.warn "request body cannot be replayed, aborting retries"
      [("attempt", toString attempt)])
    pure (.error .bodyNotRetriable)

/-- Makes the attempt of the given index, with `left` more after it, and those that follow.  The
recursion is on the attempts left. -/
def attempts (l : Layer) (inner : Transport) (left attempt : Nat) (request : Request) :
    Program Outcome := do
  match ← .query .context with
  | some reason => pure (.error (.ofContext reason))
  | none =>
    match request.forAttempt? attempt with
    | none => pure (.error .bodyNotRetriable)
    | some (outgoing, request) =>
      match l.judge (← inner outgoing) with
      | .success r => l.succeed request attempt r
      | .aborted e =>
        .trace (.debug "attempt aborted by caller-side error"
          [("attempt", toString attempt), ("error", e.message)])
        pure (.error e)
      | .failure f =>
        if l.policy.breakerEnabled then Breaker.onFailure l.index
        match left with
        | 0 =>
          .observe l.index (.attempt (record request attempt f.outcome none))
          l.giveUp attempt f
        | left + 1 => l.backOff request attempt f (l.attempts inner left (attempt + 1) request)

/-- Asks the breaker whether the request may be tried; if not, the error with the time to wait. -/
def admission (l : Layer) : Program (Option HttpError) := do
  if l.policy.breakerEnabled then
    if ← Breaker.isAllowed l.index then pure none
    else
      let retryAfter ← Breaker.remaining l.index
      .trace (.debug "circuit open, rejecting request"
        [("retry_after", Text.optional (retryAfter.map Duration.text))])
      pure (some (.circuitOpen retryAfter))
  else pure none

/-- Sends a request through the layer to the transport inside. -/
def send (l : Layer) (inner : Transport) (request : Request) : Program Outcome := do
  .trace (.span "execute" [("method", request.method), ("url", request.url.text)])
  match ← .query .context with
  | some reason => pure (.error (.ofContext reason))
  | none =>
    match ← l.admission with
    | some e => pure (.error e)
    | none => l.attempts inner (l.budget - 1) 0 request

end Layer

namespace Transport

/-- The innermost transport: one exchange. -/
def exchange : Transport := fun request => .query (.exchange request)

/-- A transport within layers, the innermost layer first. -/
def layered (layers : List Layer) (inner : Transport) : Transport :=
  layers.foldl (fun transport layer => layer.send transport) inner

/-- How often a request waits at most in a transport within layers, if it waits at most once in the
transport: for each attempt of a layer, all waits inside and the delay after it. -/
def waits (layers : List Layer) : Nat := layers.foldl (fun n layer => layer.budget * (n + 1)) 1

end Transport

end Resilience
