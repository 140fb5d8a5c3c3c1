/-
# Documents

A document is a tree of scalars, sequences and tables, whatever language it is written in.  A record
is read from a table, where members of other names are ignored and no known name may occur twice, or
from a sequence of its fields in order.

* `Document`: the tree.
* `Document.fields?`: the values given for the fields of a record.
* `Document.natural?`, `double?`, `truth?`, `text?`: the scalars.
-/

namespace Resilience

/-- A tree of scalars, sequences and tables. -/
inductive Document where
  | null
  | truth (b : Bool)
  | integer (n : Int)
  | double (x : Float)
  | text (s : String)
  | sequence (items : List Document)
  | table (members : List (String × Document))
  /-- Something that can be skipped but not read. -/
  | unreadable

instance : Inhabited Document := ⟨.null⟩

namespace Document

/-- The values for `count` fields in order, the last ones possibly missing. -/
def padded (count : Nat) (items : List Document) : Option (List (Option Document)) :=
  if items.length ≤ count then
    some (items.map some ++ List.replicate (count - items.length) none)
  else none

/-- The members of the given name. -/
def membersNamed (name : String) (members : List (String × Document)) : List Document :=
  members.filterMap fun m => if m.1 = name then some m.2 else none

/-- The value of one field of a table: none or one. -/
def field? (members : List (String × Document)) (name : String) : Option (Option Document) :=
  match membersNamed name members with
  | [] => some none
  | [d] => some (some d)
  | _ => none

/-- The values for the fields of the given names, a missing one as `none`. -/
def fields? (names : List String) : Document → Option (List (Option Document))
  | .table members => names.mapM (field? members)
  | .sequence items => padded names.length items
  | _ => none

/-- A truth value. -/
def truth? : Document → Option Bool
  | .truth b => some b
  | _ => none

/-- A natural number of at most `bound`. -/
def natural? (bound : Nat) : Document → Option Nat
  | .integer n => if 0 ≤ n ∧ n.toNat ≤ bound then some n.toNat else none
  | _ => none

/-- The double nearest to a whole number of 64 bits. -/
def doubleOfInteger (n : Int) : Float :=
  if n < 0 then -(UInt64.ofNat n.natAbs).toFloat else (UInt64.ofNat n.toNat).toFloat

/-- A double, or a whole number of 64 bits taken as one. -/
def double? : Document → Option Float
  | .double x => some x
  | .integer n =>
    if -9223372036854775808 ≤ n ∧ n < 18446744073709551616 then some (doubleOfInteger n) else none
  | _ => none

/-- A text. -/
def text? : Document → Option String
  | .text s => some s
  | _ => none

/-- A value that may be absent. -/
def optional? {α : Type} (read : Document → Option α) : Document → Option (Option α)
  | .null => some none
  | d => (read d).map some

/-- The value of a field, or its default if it is missing. -/
def readField {α : Type} (read : Document → Option α) (default : α) : Option Document → Option α
  | none => some default
  | some d => read d

end Document

end Resilience
