/-
# How bad an error is

* `Severity`: four grades in ascending order.
-/

namespace Resilience

/-- The grade of an error. -/
inductive Severity where
  | info
  | warning
  | error
  | critical
deriving DecidableEq

namespace Severity

/-- The position of the grade, the least bad first. -/
def rank : Severity → Nat
  | .info => 0
  | .warning => 1
  | .error => 2
  | .critical => 3

/-- The name of the grade. -/
def label : Severity → String
  | .info => "INFO"
  | .warning => "WARN"
  | .error => "ERROR"
  | .critical => "CRITICAL"

instance : LE Severity := ⟨fun s t => s.rank ≤ t.rank⟩

instance (s t : Severity) : Decidable (s ≤ t) := inferInstanceAs (Decidable (s.rank ≤ t.rank))

/-- The grades from the least bad to the worst. -/
def sorted (l : List Severity) : List Severity := l.mergeSort fun s t => s.rank ≤ t.rank

/-- The worst grade, if there is one. -/
def worst? (l : List Severity) : Option Severity := (sorted l).getLast?

end Severity

end Resilience
