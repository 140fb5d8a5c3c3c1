/-
# Records as text

A record is written as its name and its fields, `Name { a: 1, b: 2 }`, an optional value as
`Some(1)` or `None`, a list between brackets.

* `Text.record`, `Text.openRecord`: a record, the latter with fields left out.
* `Text.optional`, `Text.listed`, `Text.pairs`: optional values, lists and maps.
-/

namespace Resilience.Text

/-- A record with the given fields in order. -/
def record (name : String) (fields : List (String × String)) : String :=
  if fields.isEmpty then name
  else name ++ " \x7b " ++ ", ".intercalate (fields.map fun f => f.1 ++ ": " ++ f.2) ++ " \x7d"

/-- A record none of whose fields are shown. -/
def openRecord (name : String) : String := name ++ " \x7b .. \x7d"

/-- A value that wraps one other value. -/
def wrapped (name content : String) : String := name ++ "(" ++ content ++ ")"

/-- An optional value. -/
def optional : Option String → String
  | none => "None"
  | some s => wrapped "Some" s

/-- Values between brackets. -/
def listed (items : List String) : String := "[" ++ ", ".intercalate items ++ "]"

/-- Keys with their values between braces. -/
def pairs (entries : List (String × String)) : String :=
  "\x7b" ++ ", ".intercalate (entries.map fun e => e.1 ++ ": " ++ e.2) ++ "\x7d"

/-- A truth value. -/
def truth (b : Bool) : String := if b then "true" else "false"

end Resilience.Text
