/-
# Spans of time

A span is a whole number of nanoseconds below `2 ^ 64` seconds.  Sums that leave that range do
not exist, differences stop at zero.

* `Duration`: a span; `Duration.nanos` is the view through which every operation is described.
* `Duration.add?`: the sum, if it is in range.
* `Duration.sub`: the difference, truncated at zero.
* `Duration.wholeMillis`: whole milliseconds, and `Duration.millis64`, the same capped to 64 bits.
-/

namespace Resilience

/-- A span of time in nanoseconds, below `2 ^ 64` seconds. -/
structure Duration where
  /-- The length in nanoseconds. -/
  nanos : Nat
  nanos_lt : nanos < 18446744073709551616 * 1000000000
deriving DecidableEq

namespace Duration

@[ext] theorem ext {d e : Duration} (h : d.nanos = e.nanos) : d = e := by
  cases d
  cases e
  cases h
  rfl

/-- The first length that is out of range, in nanoseconds. -/
def limit : Nat := 18446744073709551616 * 1000000000

/-- The empty span. -/
def zero : Duration := ⟨0, by decide⟩

instance : Inhabited Duration := ⟨zero⟩

/-- The span of `n` nanoseconds, if it is in range. -/
def ofNanos? (n : Nat) : Option Duration :=
  if h : n < 18446744073709551616 * 1000000000 then some ⟨n, h⟩ else none

/-- The span of `n` milliseconds. -/
def ofMillis (n : UInt64) : Duration :=
  ⟨n.toNat * 1000000, by have := n.toNat_lt; omega⟩

/-- The span of `n` seconds. -/
def ofSeconds (n : UInt64) : Duration :=
  ⟨n.toNat * 1000000000, by have := n.toNat_lt; omega⟩

/-- The span of `seconds` and `nanos`, the latter below a second. -/
def ofParts (seconds : UInt64) (nanos : Fin 1000000000) : Duration :=
  ⟨seconds.toNat * 1000000000 + nanos.val, by
    have := seconds.toNat_lt
    have := nanos.isLt
    omega⟩

/-- The whole seconds. -/
def seconds (d : Duration) : UInt64 := UInt64.ofNat (d.nanos / 1000000000)

/-- The nanoseconds beyond the whole seconds. -/
def subsecNanos (d : Duration) : Nat := d.nanos % 1000000000

/-- The whole milliseconds. -/
def wholeMillis (d : Duration) : Nat := d.nanos / 1000000

/-- The whole milliseconds, at most the largest 64-bit number. -/
def millis64 (d : Duration) : UInt64 := UInt64.ofNat (min d.wholeMillis 18446744073709551615)

/-- The sum, unless it is out of range. -/
def add? (d e : Duration) : Option Duration := ofNanos? (d.nanos + e.nanos)

/-- The difference, zero where `e` is the longer. -/
def sub (d e : Duration) : Duration :=
  ⟨d.nanos - e.nanos, Nat.lt_of_le_of_lt (Nat.sub_le _ _) d.nanos_lt⟩

instance : Sub Duration := ⟨sub⟩

instance : LE Duration := ⟨fun d e => d.nanos ≤ e.nanos⟩

instance : LT Duration := ⟨fun d e => d.nanos < e.nanos⟩

instance (d e : Duration) : Decidable (d ≤ e) := inferInstanceAs (Decidable (d.nanos ≤ e.nanos))

instance (d e : Duration) : Decidable (d < e) := inferInstanceAs (Decidable (d.nanos < e.nanos))

instance : Min Duration := ⟨fun d e => if d ≤ e then d else e⟩

/-- Whether the span is empty. -/
def isZero (d : Duration) : Bool := d.nanos == 0

variable {d e f : Duration} {n : Nat}

theorem le_iff : d ≤ e ↔ d.nanos ≤ e.nanos := Iff.rfl

theorem lt_iff : d < e ↔ d.nanos < e.nanos := Iff.rfl

@[simp] theorem nanos_zero : zero.nanos = 0 := rfl

@[simp] theorem nanos_ofMillis (n : UInt64) : (ofMillis n).nanos = n.toNat * 1000000 := rfl

@[simp] theorem nanos_sub : (d - e).nanos = d.nanos - e.nanos := rfl

/-- A span of `n` nanoseconds exists exactly below the limit. -/
theorem ofNanos?_eq_some_iff : ofNanos? n = some d ↔ d.nanos = n := by
  have := d.nanos_lt
  unfold ofNanos?
  split
  · simp only [Option.some.injEq, Duration.ext_iff]
    exact eq_comm
  · simp only [reduceCtorEq, false_iff]
    omega

/-- **The sum is exact where it exists.** -/
theorem add?_eq_some_iff : d.add? e = some f ↔ f.nanos = d.nanos + e.nanos :=
  ofNanos?_eq_some_iff

@[simp] theorem nanos_min : (min d e).nanos = min d.nanos e.nanos := by
  by_cases h : d ≤ e
  · have : min d e = d := if_pos h
    rw [this, Nat.min_eq_left (le_iff.1 h)]
  · have : min d e = e := if_neg h
    rw [this, Nat.min_eq_right (by rw [le_iff] at h; omega)]

/-- The 64-bit milliseconds are the whole milliseconds, capped. -/
theorem toNat_millis64 : d.millis64.toNat = min d.wholeMillis 18446744073709551615 := by
  unfold millis64
  rw [UInt64.toNat_ofNat_of_lt']
  have : UInt64.size = 18446744073709551616 := rfl
  omega

/-- The span of `n` milliseconds has `n` whole milliseconds. -/
@[simp] theorem millis64_ofMillis (n : UInt64) : (ofMillis n).millis64 = n := by
  apply UInt64.toNat_inj.1
  rw [toNat_millis64, wholeMillis, nanos_ofMillis, Nat.mul_div_cancel _ (by decide)]
  have := n.toNat_lt
  omega

end Duration

end Resilience
