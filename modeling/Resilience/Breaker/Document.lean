/-
# The position of a breaker as a document

* `Circuit.ofDocument?`: the position that a document names.
-/
import Resilience.Breaker.Basic
import Resilience.Document

namespace Resilience

/-- The position that a document names: as a text, or as the only member of a table, which has no value
then. -/
def Circuit.ofDocument? : Document → Option Circuit
  | .text name => ofName? name
  | .table [(name, .null)] => ofName? name
  | _ => none

end Resilience
