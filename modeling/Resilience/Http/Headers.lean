/-
# Headers

Headers hold for each name one value or more.  Case does not count in names, which are kept in lower
case.  Names stay in the order in which they came; taking one out puts the last name into its place.

* `Headers.fold`: a name in lower case.
* `Headers.insert`, `Headers.append`, `Headers.erase`: the changes.
* `Headers.get`: the values of a name.
* `Headers.size`: the number of values.
-/
import Resilience.Text.Quoted
import Resilience.Text.Record

namespace Resilience

/-- Names with their values. -/
structure Headers where
  /-- The names in order and in lower case, each with its values. -/
  entries : List (String × List ByteArray)

namespace Headers

/-- No headers. -/
def empty : Headers := ⟨[]⟩

instance : Inhabited Headers := ⟨empty⟩

/-- A name in lower case. -/
def fold (name : String) : String := name.map Char.toLower

/-- The values of a name. -/
def get (h : Headers) (name : String) : List ByteArray := (h.entries.lookup (fold name)).getD []

/-- Gives a name one value; its former values are gone. -/
def insert (h : Headers) (name : String) (value : ByteArray) : Headers :=
  let name := fold name
  if h.entries.any fun e => e.1 = name then
    ⟨h.entries.map fun e => if e.1 = name then (name, [value]) else e⟩
  else ⟨h.entries ++ [(name, [value])]⟩

/-- Adds a value to a name. -/
def append (h : Headers) (name : String) (value : ByteArray) : Headers :=
  let name := fold name
  if h.entries.any fun e => e.1 = name then
    ⟨h.entries.map fun e => if e.1 = name then (name, e.2 ++ [value]) else e⟩
  else ⟨h.entries ++ [(name, [value])]⟩

/-- Takes the entry at an index out of a list and puts the last one into its place. -/
def swapOut {α : Type} (l : List α) (i : Nat) : List α :=
  match l.getLast? with
  | none => []
  | some last => if i + 1 = l.length then l.dropLast else l.dropLast.set i last

/-- Takes a name out. -/
def erase (h : Headers) (name : String) : Headers :=
  match h.entries.findIdx? fun e => e.1 = fold name with
  | some i => ⟨swapOut h.entries i⟩
  | none => h

/-- The number of values. -/
def size (h : Headers) : Nat := (h.entries.flatMap fun e => e.2).length

/-- The names in alphabetical order with their values. -/
def sorted (h : Headers) : List (String × List ByteArray) :=
  h.entries.mergeSort fun a b => a.1 < b.1 || a.1 == b.1

/-- A byte of a value in a record: the visible basic characters and the tab stand for themselves. -/
def describeByte (b : UInt8) : List Char :=
  if b = 34 then ['\\', '"']
  else if (32 ≤ b ∧ b < 127) ∨ b = 9 then [Char.ofNat b.toNat]
  else ['\\', 'x'] ++ Text.hexDigits b.toNat

/-- A value in a record. -/
def describeValue (v : ByteArray) : String :=
  "\"" ++ String.ofList (v.data.toList.flatMap describeByte) ++ "\""

/-- The headers as a map, one entry for each value. -/
def describe (h : Headers) : String :=
  Text.pairs (h.entries.flatMap fun e => e.2.map fun v => (Text.quoted e.1, describeValue v))

/-- Whether bytes can be the value of a header: no control characters but the tab. -/
def isValue (v : ByteArray) : Bool :=
  v.data.toList.all fun b => (32 ≤ b && b != 127) || b == 9

end Headers

end Resilience
