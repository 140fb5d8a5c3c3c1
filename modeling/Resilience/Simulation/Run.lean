/-
# Runs of several tasks

At each instant the tasks go on in order as far as they can.  Then time moves to the next instant at
which something happens.

* `World.run`: runs tasks to their end.
* `World.sleep`: lets time pass with nothing to do.
* `World.await`: lets time pass until a context is over.
-/
import Resilience.Simulation.Task

namespace Resilience.World

/-- Lets each of the tasks go on, in order. -/
def pollAll (w : World) : List Task → List Task × World
  | [] => ([], w)
  | t :: rest =>
    let (t, w) := t.poll w
    let (rest, w) := w.pollAll rest
    (t :: rest, w)

/-- The first instant at which something happens to the tasks or is cancelled. -/
def nextEvent (w : World) (tasks : List Task) : Option Instant :=
  (tasks.flatMap Task.events ++ w.alarms.map Prod.fst).min?

/-- Runs tasks through at most `fuel` moves of the time. -/
def runFor (w : World) (tasks : List Task) : Nat → List Task × World
  | 0 => (tasks, w)
  | fuel + 1 =>
    let (tasks, w) := w.pollAll tasks
    if tasks.all fun t => t.outcome?.isSome then (tasks, w)
    else
      let w := w.startAlarms
      match w.nextEvent tasks with
      | none => (tasks, w)
      | some t => (w.moveTo t).runFor tasks fuel

/-- Runs tasks, each of which waits at most `waits` times, to their end. -/
def run (w : World) (waits : Nat) (tasks : List Task) : List Task × World :=
  w.runFor tasks (tasks.length * waits + w.plans.length + w.alarms.length + 2)

/-- Lets time pass with nothing to do. -/
def sleep (w : World) (d : Duration) : World := w.startAlarms.moveTo (w.wakeAfter d)

/-- Lets time pass until a context is over, through at most `fuel` moves of the time; `none` if nothing
will end it. -/
def awaitFor (w : World) (c : Context) : Nat → Option ContextEnd × World
  | 0 => (w.fired? c, w)
  | fuel + 1 =>
    match w.fired? c with
    | some reason => (some reason, w)
    | none =>
      let w := w.startAlarms
      match ((c.deadline.map wholeMillisecond).toList ++ w.alarms.map Prod.fst).min? with
      | none => (none, w)
      | some t => (w.moveTo t).awaitFor c fuel

/-- Lets time pass until a context is over. -/
def await (w : World) (c : Context) : Option ContextEnd × World :=
  w.awaitFor c (w.plans.length + w.alarms.length + 2)

end Resilience.World
