/-
# A world to run requests in

The world answers the questions of programs: it holds the clocks, the breakers, the observers, a source
of random samples, a script of how exchanges end, and what has been cancelled.  Nothing in it depends on
the outside, so a run can be repeated.

* `Step`: how one exchange goes.
* `World`: the state; `World.enter`, `observe`, `sample`, `begin` are its answers.
* `ContextPlan`, `World.openContext`: the context of a request.
* `World.wakeAfter`: when a wait ends: at the first whole millisecond not before its instant.
* `Context.fired?`: what a wait for the end of a context looks at.
-/
import Resilience.Pipeline

namespace Resilience

/-- Samples that are drawn in order, of which the last repeats; without any, one half. -/
structure Jitter where
  /-- The samples to come, `none` where there is no randomness. -/
  samples : List (Option Float)

/-- Draws a sample. -/
def Jitter.draw (j : Jitter) : Option Float × Jitter :=
  match j.samples with
  | [] => (some 0.5, j)
  | [x] => (x, j)
  | x :: rest => (x, ⟨rest⟩)

/-- The clock of a breaker. -/
inductive ClockSource where
  | manual
  | run
  /-- A clock that moves a little between any two readings. -/
  | ticking
deriving DecidableEq

/-- Who watches a layer. -/
inductive Watcher where
  | recording
  | tracing (dependency : String)
  | nobody

/-- How one exchange goes. -/
structure Step where
  /-- How far the manual clock is advanced first. -/
  clock : Duration := .zero
  cancel : Bool := false
  delay : Option Duration := none
  /-- Whether the end of the context does not end the exchange. -/
  ignoresContext : Bool := false
  outcome : Outcome := .ok { status := ⟨200⟩ }

/-- How the context of a request is made. -/
structure ContextPlan where
  /-- The spans after which it is over, each from now. -/
  timeouts : List Duration := []
  child : Bool := false
  cancelled : Bool := false
  /-- After which time it is cancelled. -/
  cancelAfter : Option Duration := none

/-- A request as it reached the transport, and when. -/
structure Call where
  time : Instant
  request : Request

/-- The parts of the world that belong to a layer. -/
structure Station where
  config : BreakerConfig := {}
  state : BreakerState := .initial
  clock : ClockSource := .manual
  watcher : Watcher := .recording

instance : Inhabited Station := ⟨{}⟩

/-- The state of the world. -/
structure World where
  now : Instant := .origin
  manual : ManualClock := .start
  /-- How often the moving clock was read. -/
  readings : Nat := 0
  stations : List Station := []
  jitter : Jitter := ⟨[]⟩
  /-- How the exchanges go; the last step repeats. -/
  script : List Step := []
  calls : List Call := []
  recorder : Recorder := {}
  /-- The lines of the trace, the last first. -/
  lines : List TraceLine := []
  tokens : Tokens := {}
  /-- What is to be cancelled a while after the next wait begins. -/
  plans : List (Duration × Token) := []
  /-- What is to be cancelled, and when. -/
  alarms : List (Instant × Token) := []
  /-- The first failure to read or advance a clock. -/
  fault : Option ClockFault := none

namespace World

/-- The parts that belong to a layer. -/
def station (w : World) (layer : Nat) : Station := (w.stations[layer]?).getD default

/-- Writes a line. -/
def trace (w : World) (line : TraceLine) : World := { w with lines := line :: w.lines }

/-- Keeps the first fault. -/
def fail (w : World) (f : ClockFault) : World := { w with fault := w.fault.or (some f) }

/-- The instant of the moving clock at its `n`th reading. -/
def tickingInstant (n : Nat) : Instant := .mk ((Duration.ofNanos? n).getD .zero)

/-- Reads a clock. -/
def readClock (w : World) : ClockSource → Instant × World
  | .manual =>
    match w.manual.now with
    | .ok t => (t, w)
    | .error f => (.origin, w.fail f)
  | .run => (w.now, w)
  | .ticking => (tickingInstant w.readings, { w with readings := w.readings + 1 })

/-- Runs a section of a breaker's calls, looking at the clock only if the section does. -/
def enter (w : World) (layer : Nat) (part : Section) : part.Answer × World :=
  let s := w.station layer
  let (now, w) := if part.readsClock s.state then w.readClock s.clock else (.origin, w)
  let (answer, state) := s.state.enter s.config now part
  (answer, { w with stations := w.stations.modify layer fun s => { s with state } })

/-- Tells the observer of a layer. -/
def observe (w : World) (layer : Nat) (notice : Notice) : World :=
  match (w.station layer).watcher with
  | .recording => { w with recorder := w.recorder.record notice }
  | .tracing dependency => w.trace (notice.traceLine dependency)
  | .nobody => w

/-- Draws a random sample. -/
def sample (w : World) : Option Float × World :=
  let (x, jitter) := w.jitter.draw
  (x, { w with jitter })

/-- Advances the manual clock. -/
def advanceClock (w : World) (d : Duration) : World :=
  match w.manual.advance d with
  | .ok manual => { w with manual }
  | .error f => w.fail f

/-- Cancels a token. -/
def cancel (w : World) (t : Token) : World := { w with tokens := w.tokens.cancel t }

/-- Why a context is over. -/
def ended? (w : World) (c : Context) : Option ContextEnd := c.ended? w.tokens w.now

/-- Begins an exchange: takes down the request and does what the step of the script does first. -/
def begin (w : World) (c : Context) (request : Request) : Step × World :=
  let (step, script) : Step × List Step :=
    match w.script with
    | [] => ({}, [])
    | [s] => (s, [s])
    | s :: rest => (s, rest)
  let w := { w with script := script, calls := w.calls ++ [Call.mk w.now request] }
  let w := w.advanceClock step.clock
  (step, if step.cancel then w.cancel c.token else w)

/-- The first whole millisecond not before an instant. -/
def wholeMillisecond (t : Instant) : Instant :=
  match Duration.ofNanos? ((t.sinceOrigin.nanos + 999999) / 1000000 * 1000000) with
  | some d => .mk d
  | none => t

/-- Thirty years, for waits whose end is no instant. -/
def farFuture : Duration := .ofSeconds 946080000

/-- When a wait that begins now ends. -/
def wakeAfter (w : World) (d : Duration) : Instant :=
  wholeMillisecond (((w.now.after? d).or (w.now.after? farFuture)).getD w.now)

end World

/-- Why a wait for the end of the context is over: its token is cancelled, or else the timer of its
deadline has fired, which it does at a whole millisecond. -/
def Context.fired? (c : Context) (tokens : Tokens) (now : Instant) : Option ContextEnd :=
  ({ c with deadline := c.deadline.map World.wholeMillisecond } : Context).ended? tokens now

namespace World

/-- Why a wait for the end of a context is over. -/
def fired? (w : World) (c : Context) : Option ContextEnd := c.fired? w.tokens w.now

/-- Cancels what is to be cancelled by `t`. -/
def ring (w : World) (t : Instant) : World :=
  let due := w.alarms.filter fun a => a.1 ≤ t
  due.foldl (fun w a => w.cancel a.2) { w with alarms := w.alarms.filter fun a => !(a.1 ≤ t) }

/-- Moves the time to `t`, unless it is later already, and cancels what is to be cancelled by then. -/
def moveTo (w : World) (t : Instant) : World :=
  let t := if t ≤ w.now then w.now else t
  { w with now := t }.ring t

/-- Lets the token be cancelled after a while, which begins with the next wait. -/
def cancelAfter (w : World) (t : Token) (d : Duration) : World :=
  { w with plans := w.plans ++ [(d, t)] }

/-- Begins the waits of all that is to be cancelled after a while. -/
def startAlarms (w : World) : World :=
  { w with plans := [], alarms := w.alarms ++ w.plans.map fun p => (w.wakeAfter p.1, p.2) }

/-- Moves the time on by `d` at one stroke.  What was to be cancelled by the old time is cancelled; what is
to be cancelled meanwhile has to wait until the time moves again. -/
def advance (w : World) (d : Duration) : World :=
  let w := w.ring w.now
  match w.now.after? d with
  | some t => { w with now := t }.startAlarms
  | none => w.fail .instantOverflow

/-- Makes a context that ends with nothing but its token. -/
def background (w : World) : Context × World :=
  let (token, tokens) := w.tokens.create
  ({ token }, { w with tokens })

/-- Makes a context below another one. -/
def childContext (w : World) (c : Context) : Context × World :=
  let (token, tokens) := w.tokens.child c.token
  ({ c with token }, { w with tokens })

/-- Makes the context of a request. -/
def openContext (w : World) (p : ContextPlan) : Context × World :=
  let (c, w) := w.background
  let c := p.timeouts.foldl (fun c d => c.withTimeout w.now d) c
  let (c, w) := if p.child then w.childContext c else (c, w)
  let w := if p.cancelled then w.cancel c.token else w
  match p.cancelAfter with
  | some d => (c, w.cancelAfter c.token d)
  | none => (c, w)

end World

end Resilience
