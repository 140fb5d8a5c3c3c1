/-
# Labels in basic characters

The part of a label beyond the basic characters is written as a sequence of distances: how far it is, in
the order of code points and of places, from each inserted character to the next.  A distance is a number
of variable length to base 36 whose thresholds follow the size of the distances before it.

* `Url.encodeLabel`: a label in basic characters.
* `Url.decodeLabel?`: the label that such a text stands for.
-/

namespace Resilience.Url

/-! ## Numbers of variable length -/

/-- The bias for a distance, thirty-six for each division that brings it below the bound. -/
def biasOf (bias delta : Nat) : Nat :=
  if delta > 455 then biasOf (bias + 36) (delta / 35) else bias + 36 * delta / (delta + 38)
termination_by delta

/-- The bias after a distance, when `count` characters have been handled. -/
def adaptBias (delta count : Nat) (first : Bool) : Nat :=
  let delta := if first then delta / 700 else delta / 2
  biasOf 0 (delta + delta / count)

/-- A digit to base 36: a letter or a figure. -/
def baseDigit (n : Nat) : Char := if n < 26 then Char.ofNat (n + 0x61) else Char.ofNat (n - 26 + 0x30)

/-- The threshold of the digit of weight `k`. -/
def threshold (bias k : Nat) : Nat :=
  if k ≤ bias then 1 else if bias + 26 ≤ k then 26 else k - bias

/-- Thresholds are positive. -/
theorem threshold_pos (bias k : Nat) : 0 < threshold bias k := by
  unfold threshold
  split
  · omega
  · split <;> omega

/-- A number of variable length, least digit first: a digit below its threshold is the last. -/
def variableDigits (bias k q : Nat) : List Char :=
  let t := threshold bias k
  if q < t then [baseDigit q]
  else baseDigit (t + (q - t) % (36 - t)) :: variableDigits bias (k + 36) ((q - t) / (36 - t))
termination_by q
decreasing_by
  have := threshold_pos bias k
  have := Nat.div_le_self (q - threshold bias k) (36 - threshold bias k)
  omega

/-! ## Writing -/

/-- The state of the encoding of a label. -/
structure LabelState where
  point : Nat
  delta : Nat
  bias : Nat
  handled : Nat
  written : List Char

/-- Handles all characters of one code point. -/
def LabelState.handle (label : List Char) (basic : Nat) (s : LabelState) (m : Nat) : LabelState :=
  let s := { s with delta := s.delta + (m - s.point) * (s.handled + 1), point := m }
  let s := label.foldl
    (fun s c =>
      if c.toNat < m then { s with delta := s.delta + 1 }
      else if c.toNat = m then
        { s with
          written := (variableDigits s.bias 36 s.delta).reverse ++ s.written
          bias := adaptBias s.delta (s.handled + 1) (s.handled == basic)
          delta := 0
          handled := s.handled + 1 }
      else s)
    s
  { s with delta := s.delta + 1, point := m + 1 }

/-- A label in basic characters: the basic ones in order, then the distances of the others. -/
def encodeLabel (label : List Char) : List Char :=
  let basic := label.filter (·.toNat < 0x80)
  let points := ((label.map Char.toNat).filter (0x80 ≤ ·)).eraseDups.mergeSort
  let start : LabelState := ⟨0x80, 0, 72, basic.length, []⟩
  let final := points.foldl (LabelState.handle label basic.length) start
  basic ++ (if basic.isEmpty then [] else ['-']) ++ final.written.reverse

/-! ## Reading -/

/-- The value of a digit to base 36. -/
def digitOf? (c : Char) : Option Nat :=
  if 'a' ≤ c ∧ c ≤ 'z' then some (c.toNat - 'a'.toNat)
  else if '0' ≤ c ∧ c ≤ '9' then some (c.toNat - '0'.toNat + 26)
  else none

/-- The state of the decoding of a label. -/
structure LabelReading where
  label : List Char
  point : Nat := 0x80
  /-- The place after the character inserted last, and the distance read so far beyond it. -/
  index : Nat := 0
  /-- The place after the character inserted last. -/
  start : Nat := 0
  bias : Nat := 72
  /-- What the next digit of the distance counts for. -/
  weight : Nat := 1
  /-- The number of the next digit of the distance, from one and in steps of thirty-six. -/
  position : Nat := 36

/-- Inserts the character at the end of a distance. -/
def LabelReading.insert (r : LabelReading) (index : Nat) : Option LabelReading :=
  let size := r.label.length + 1
  let point := r.point + index / size
  if point.isValidChar then
    some
      { label := r.label.take (index % size) ++ Char.ofNat point :: r.label.drop (index % size)
        point := point
        index := index % size + 1
        start := index % size + 1
        bias := adaptBias (index - r.start) size (r.start == 0) }
  else none

/-- Reads one digit. -/
def LabelReading.read (r : LabelReading) (c : Char) : Option LabelReading := do
  let digit ← digitOf? c
  let index := r.index + digit * r.weight
  let t := threshold r.bias r.position
  if digit < t then r.insert index
  else some { r with index := index, weight := r.weight * (36 - t), position := r.position + 36 }

/-- The basic characters before the last hyphen, and what follows it. -/
def splitHyphen (s : List Char) : List Char × List Char :=
  let tail := (s.reverse.takeWhile (· ≠ '-')).reverse
  if tail.length = s.length then ([], s) else (s.take (s.length - tail.length - 1), tail)

/-- The label that a text in basic characters stands for. -/
def decodeLabel? (s : List Char) : Option (List Char) := do
  let (basic, digits) := splitHyphen s
  let r ← digits.foldlM LabelReading.read { label := basic }
  if r.weight = 1 ∧ r.position = 36 then some r.label else none

end Resilience.Url
