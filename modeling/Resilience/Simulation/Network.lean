/-
# A network without servers

In this network no host can be reached: looking up its name fails, or never ends.  So every exchange of
the network transport ends with a fault, at once or when its time is over.

* `Lookup`: the two ways in which a look-up goes.
* `Lookup.step`: how an exchange goes then.
-/
import Resilience.Http.Network
import Resilience.Simulation.World

namespace Resilience

/-- How looking up the name of a host goes. -/
inductive Lookup where
  | fails
  | hangs
deriving DecidableEq

namespace Lookup

/-- The time after which an exchange that hangs is given up: the shorter of the two that are set. -/
def patience (total connect : Option Duration) : Option Duration :=
  match total, connect with
  | some d, some e => some (min d e)
  | some d, none | none, some d => some d
  | none, none => none

/-- An exchange that ends with the fault after the given time. -/
def failing (delay : Option Duration) (fault : NetworkFault) : Step :=
  { delay := delay, outcome := .error fault.error }

/-- How an exchange with the address goes, within at most `total` in all and `connect` for the
connection.  An address that no request can be sent to is refused first; then an exchange without any
time is over before it has begun. -/
def step (l : Lookup) (total connect : Option Duration) (url : Url) : Step :=
  if !url.isWeb then failing none (.address url)
  else if total = some .zero then failing none .timeout
  else
    match l with
    | .fails => failing none .connect
    | .hangs => failing (some ((patience total connect).getD World.farFuture)) .timeout

end Lookup

end Resilience
