/-
# Scenes

A scene is what requests are sent through in a run: a transport within layers, the outermost of which may
belong to a client.

* `Scene.addLayer`, `Scene.addClient`: put another layer around, or refuse its settings.
* `Scene.transport`: the whole as one transport.
* `Scene.stations`: the parts of the world that belong to the layers.
* `Scene.send`: requests that are sent at the same time.
* `Scene.describe`: the whole as a record.
-/
import Resilience.Client
import Resilience.Simulation.Run

namespace Resilience

/-- A transport within layers. -/
structure Scene where
  /-- What makes the exchanges, with its description; none if nothing is given. -/
  inner : Option (Transport × String)
  layers : List Layer := []
  client : Option ClientConfig := none

namespace Scene

/-- Whether there is something to put a layer around. -/
def hasInner (s : Scene) : Bool := s.inner.isSome || !s.layers.isEmpty

/-- Puts a layer around. -/
def addLayer (s : Scene) (c : LayerConfig) : Except HttpError Scene :=
  match Layer.build s.layers.length s.hasInner c with
  | .ok layer => .ok { s with layers := s.layers ++ [layer], client := none }
  | .error f => .error (.config f)

/-- Puts the layer of a client around, or around a network transport if there is nothing. -/
def addClient (s : Scene) (c : ClientConfig) : Except HttpError Scene :=
  let build := if s.hasInner then Client.build else Client.buildOverNetwork
  (build s.layers.length c).map fun client =>
    { s with layers := s.layers ++ [client.layer], client := some client.config }

/-- The whole as one transport. -/
def transport (s : Scene) : Transport :=
  Transport.layered s.layers ((s.inner.map Prod.fst).getD Transport.network)

/-- The stations of the layers, all with the same kind of clock and of observer. -/
def stations (s : Scene) (clock : ClockSource) (watcher : Watcher) : List Station :=
  s.layers.map fun l => { config := l.breaker, clock := clock, watcher := watcher }

/-- What is inside the outermost layer as a record. -/
def describeInside (s : Scene) (w : World) : String :=
  s.layers.dropLast.foldl (fun text l => l.describe text (w.station l.index).state)
    ((s.inner.map Prod.snd).getD Transport.networkDescription)

/-- The whole as a record. -/
def describe (s : Scene) (w : World) : String :=
  let inside := s.describeInside w
  match s.layers.getLast? with
  | none => inside
  | some l =>
    let state := (w.station l.index).state
    match s.client with
    | some c => Client.describe ⟨l, c⟩ inside state
    | none => l.describe inside state

/-- The task of a request; one that makes no sense has failed already. -/
def task (s : Scene) (w : World) (request : Except HttpError Request) (plan : ContextPlan) :
    Task × World :=
  match request with
  | .error e => ({ context := default, stage := .finished (.error e) }, w)
  | .ok r =>
    let (context, w) := w.openContext plan
    ({ context, stage := .ready (s.transport r) }, w)

/-- The tasks of several requests. -/
def tasks (s : Scene) (w : World) :
    List (Except HttpError Request × ContextPlan) → List Task × World
  | [] => ([], w)
  | (request, plan) :: rest =>
    let (t, w) := s.task w request plan
    let (rest, w) := s.tasks w rest
    (t :: rest, w)

/-- Sends requests at the same time and waits for all of them; `none` for one that never ends. -/
def send (s : Scene) (w : World) (requests : List (Except HttpError Request × ContextPlan)) :
    List (Option Outcome) × World :=
  let (tasks, w) := s.tasks w requests
  let (tasks, w) := w.run (Transport.waits s.layers) tasks
  (tasks.map Task.outcome?, w)

end Scene

end Resilience
