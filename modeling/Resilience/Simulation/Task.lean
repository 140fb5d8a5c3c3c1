/-
# Tasks

A task is a program with the context of its request.  It goes on until it has to wait; a wait ends at
its time, or before if the context ends.

* `Task`, `Stage`, `Wait`: a task and how far it has come.
* `Program.advance`: runs a program up to its next wait.
* `Program.perform`: runs a program that does not wait.
* `Task.poll`: lets a task go on if it can.
-/
import Resilience.Simulation.World

namespace Resilience

/-- A wait of a program. -/
structure Wait where
  raced : Bool
  wake : Instant
  onWake : Program Outcome
  onEnd : ContextEnd → Program Outcome

/-- How far a task has come. -/
inductive Stage where
  | ready (p : Program Outcome)
  | waiting (w : Wait)
  | finished (o : Outcome)

/-- Runs a program up to its next wait.  A context that is over ends a wait before it begins, and a wait
that ends now is none. -/
def Program.advance (c : Context) : Program Outcome → World → Stage × World
  | .done o, w => (.finished o, w)
  | .ask .context next, w => (next (w.ended? c)).advance c w
  | .ask (.breaker layer part) next, w =>
    let (answer, w) := w.enter layer part
    (next answer).advance c w
  | .ask (.observe layer notice) next, w => (next ()).advance c (w.observe layer notice)
  | .ask (.trace line) next, w => (next ()).advance c (w.trace line)
  | .ask (.sample _) next, w =>
    let (x, w) := w.sample
    (next x).advance c w
  | .ask (.pause d) next, w =>
    match w.ended? c with
    | some reason => (next (some reason)).advance c w
    | none =>
      let wake := w.wakeAfter d
      if wake ≤ w.now then (next none).advance c w
      else (.waiting ⟨true, wake, next none, fun reason => next (some reason)⟩, w)
  | .ask (.exchange request) next, w =>
    let (step, w) := w.begin c request
    match step.delay with
    | none => (next step.outcome).advance c w
    | some d =>
      match if step.ignoresContext then none else w.ended? c with
      | some reason => (next (.error (.ofContext reason))).advance c w
      | none =>
        let wake := w.wakeAfter d
        if wake ≤ w.now then (next step.outcome).advance c w
        else
          (.waiting ⟨!step.ignoresContext, wake, next step.outcome,
            fun reason => next (.error (.ofContext reason))⟩, w)

/-- Runs a program to its end.  No context ends meanwhile, and nothing takes time. -/
def Program.perform {α : Type} : Program α → World → α × World
  | .done a, w => (a, w)
  | .ask .context next, w => (next none).perform w
  | .ask (.breaker layer part) next, w =>
    let (answer, w) := w.enter layer part
    (next answer).perform w
  | .ask (.observe layer notice) next, w => (next ()).perform (w.observe layer notice)
  | .ask (.trace line) next, w => (next ()).perform (w.trace line)
  | .ask (.sample _) next, w =>
    let (x, w) := w.sample
    (next x).perform w
  | .ask (.pause _) next, w => (next none).perform w
  | .ask (.exchange request) next, w =>
    let (context, w) := w.background
    let (step, w) := w.begin context request
    (next step.outcome).perform w

/-- A program with the context of its request. -/
structure Task where
  context : Context
  stage : Stage

namespace Task

/-- Lets the task go on if it can. -/
def poll (t : Task) (w : World) : Task × World :=
  let go (p : Program Outcome) : Task × World :=
    let (stage, w) := p.advance t.context w
    ({ t with stage }, w)
  match t.stage with
  | .finished _ => (t, w)
  | .ready p => go p
  | .waiting wait =>
    match if wait.raced then w.ended? t.context else none with
    | some reason => go (wait.onEnd reason)
    | none => if wait.wake ≤ w.now then go wait.onWake else (t, w)

/-- When something may happen to the task. -/
def events (t : Task) : List Instant :=
  match t.stage with
  | .waiting wait =>
    let ends :=
      match wait.raced, t.context.deadline with
      | true, some d => [World.wholeMillisecond d]
      | _, _ => []
    wait.wake :: ends
  | _ => []

/-- How the task ended, if it has. -/
def outcome? (t : Task) : Option Outcome :=
  match t.stage with
  | .finished o => some o
  | _ => none

end Task

end Resilience
