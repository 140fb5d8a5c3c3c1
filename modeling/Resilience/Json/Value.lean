/-
# JSON values

A value is what a document means: numbers have a value, members of an object have distinct names and
are sorted by them, the last of several members of one name counts.

* `Json.Value`: the values; `Json.Number` tells whole numbers of 64 bits from doubles.
* `Json.Value.parse`: the value of a text, `none` for texts that have none.
* `Json.Value.render`: the compact text of a value.
-/
import Resilience.Decimal.Shortest
import Resilience.Json.Tree

namespace Resilience.Json

/-- A number: whole if it is written without point and exponent and fits in 64 bits. -/
inductive Number where
  | whole (n : Int)
  | double (x : Float)

/-- The value of a number, `none` if it is beyond all doubles.  Minus zero is a double.  The double is the
nearest one; a reader that rounds more than once may give a neighbour of it. -/
def NumberText.value? (n : NumberText) : Option Number :=
  let size := digitsValue n.whole
  let fits := if n.negative then 0 < size ∧ size ≤ 9223372036854775808 else size < 18446744073709551616
  if n.fraction = none ∧ n.exponent = none ∧ fits then
    some (.whole (if n.negative then -(size : Int) else size))
  else
    let fraction := n.fraction.getD []
    let x := nearestDouble (digitsValue (n.whole ++ fraction)) (n.exponent.getD 0 - fraction.length)
    if x.isInf then none else some (.double (if n.negative then -x else x))

/-- A value. -/
inductive Value where
  | null
  | truth (b : Bool)
  | number (n : Number)
  | text (s : String)
  | array (items : List Value)
  | object (members : List (String × Value))

instance : Inhabited Value := ⟨.null⟩

/-- Puts a member into its place; it replaces one of the same name. -/
def insertMember (name : String) (v : Value) : List (String × Value) → List (String × Value)
  | [] => [(name, v)]
  | m :: rest =>
    if name = m.1 then (name, v) :: rest
    else if name < m.1 then (name, v) :: m :: rest
    else m :: insertMember name v rest

/-- The object of a list of members in writing order. -/
def Value.ofMembers (members : List (String × Value)) : Value :=
  .object (members.foldl (fun done m => insertMember m.1 m.2 done) [])

/-- The value of a tree that nests less than `depth` deep. -/
def Tree.value? (depth : Nat) : Tree → Option Value
  | .null => some .null
  | .truth b => some (.truth b)
  | .number n => n.value?.map .number
  | .string s => s.map .text
  | .array items =>
    match depth with
    | 0 => none
    | depth + 1 => (items.mapM (value? depth)).map .array
  | .object members =>
    match depth with
    | 0 => none
    | depth + 1 => do
      let members ← members.mapM fun m => do pure ((← m.1), (← value? depth m.2))
      pure (Value.ofMembers members)

/-- How deep arrays and objects may nest in a value. -/
def Value.maxDepth : Nat := 127

/-- The value of a text. -/
def Value.parse (text : ByteArray) : Option Value := do (← Tree.parse text).value? maxDepth

/-- The member of an object, `null` if there is none or the value is no object. -/
def Value.get (v : Value) (name : String) : Value :=
  match v with
  | .object members => (members.lookup name).getD .null
  | _ => .null

/-! ## Writing -/

/-- A double is positional with at most sixteen digits before the point and at most four zeros after
it. -/
def doubleLayout : Decimal.Layout := ⟨-4, 16⟩

/-- One character of a string: quote, backslash and control characters are escaped. -/
def escapeChar (c : Char) : List Char :=
  if c = '"' then ['\\', '"']
  else if c = '\\' then ['\\', '\\']
  else if c = '\n' then ['\\', 'n']
  else if c = '\r' then ['\\', 'r']
  else if c = '\t' then ['\\', 't']
  else if c = '\x08' then ['\\', 'b']
  else if c = '\x0c' then ['\\', 'f']
  else if c.toNat < 0x20 then
    let digits := Nat.toDigits 16 c.toNat
    ['\\', 'u'] ++ List.replicate (4 - digits.length) '0' ++ digits
  else [c]

/-- A string. -/
def renderString (s : String) : String :=
  String.ofList (['"'] ++ s.toList.flatMap escapeChar ++ ['"'])

/-- A number. -/
def Number.render : Number → String
  | .whole n => toString n
  | .double x => if x.isNaN || x.isInf then "null" else doubleLayout.render x

mutual

/-- The compact text of a value. -/
def Value.render : Value → String
  | .null => "null"
  | .truth b => if b then "true" else "false"
  | .number n => n.render
  | .text s => renderString s
  | .array items => "[" ++ ",".intercalate (renderItems items) ++ "]"
  | .object members => "\x7b" ++ ",".intercalate (renderMembers members) ++ "\x7d"

/-- The compact texts of the items of an array. -/
def renderItems : List Value → List String
  | [] => []
  | v :: rest => v.render :: renderItems rest

/-- The compact texts of the members of an object. -/
def renderMembers : List (String × Value) → List String
  | [] => []
  | (name, v) :: rest => (renderString name ++ ":" ++ v.render) :: renderMembers rest

end

end Resilience.Json
