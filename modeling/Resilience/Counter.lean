/-
# Counters that stop at their cap

A breaker counts failures, successes and rejections for as long as it lives.  A count that
reaches the largest value its width holds stays there; it never starts again at zero.

* `Counter cap`: a natural number that is at most `cap`.
* `Counter.tick`: one more, unless the cap is reached (`Counter.value_tick`).
-/

namespace Resilience

/-- A count that never exceeds `cap`. -/
structure Counter (cap : Nat) where
  value : Nat
  value_le : value ≤ cap
deriving DecidableEq

/-- A count held in 32 bits. -/
abbrev Count32 := Counter 4294967295

/-- A count held in 64 bits. -/
abbrev Count64 := Counter 18446744073709551615

namespace Counter

variable {cap : Nat}

/-- The empty count. -/
def zero : Counter cap := ⟨0, Nat.zero_le _⟩

instance : Inhabited (Counter cap) := ⟨zero⟩

/-- Counts one more event; a full counter stays full. -/
def tick (c : Counter cap) : Counter cap := ⟨min (c.value + 1) cap, Nat.min_le_right _ _⟩

@[simp] theorem value_zero : (zero : Counter cap).value = 0 := rfl

/-- **A tick adds one, up to the cap.** -/
theorem value_tick (c : Counter cap) : c.tick.value = min (c.value + 1) cap := rfl

/-- Below the cap a tick adds exactly one. -/
theorem value_tick_of_lt {c : Counter cap} (h : c.value < cap) : c.tick.value = c.value + 1 := by
  rw [value_tick, Nat.min_eq_left h]

/-- A tick never lowers the count. -/
theorem value_le_value_tick (c : Counter cap) : c.value ≤ c.tick.value := by
  have := c.value_le
  rw [value_tick]
  omega

@[ext] theorem ext {c d : Counter cap} (h : c.value = d.value) : c = d := by
  cases c
  cases d
  cases h
  rfl

end Counter

end Resilience
