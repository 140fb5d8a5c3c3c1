/-
# JSON documents

* `Json.Tree.document`: the document that a JSON tree stands for, down to a depth; what cannot be read
  as a value, and all that lies deeper, is unreadable but does not spoil the rest.
* `Json.readDocument`: the document of a text.
-/
import Resilience.Document
import Resilience.Json.Value

namespace Resilience.Json

/-- The scalar of a number. -/
def Number.document : Number → Document
  | .whole n => .integer n
  | .double x => .double x

/-- The document of a tree down to `depth`. -/
def Tree.document (depth : Nat) : Tree → Document
  | .null => .null
  | .truth b => .truth b
  | .number n => (n.value?.map Number.document).getD .unreadable
  | .string s => (s.map Document.text).getD .unreadable
  | .array items =>
    match depth with
    | 0 => .unreadable
    | depth + 1 => .sequence (items.map (document depth))
  | .object members =>
    match depth with
    | 0 => .unreadable
    | depth + 1 =>
      let named := members.mapM fun m => m.1.map fun name => (name, document depth m.2)
      (named.map Document.table).getD .unreadable

/-- The document of a text, down to `depth`. -/
def readDocument (depth : Nat) (text : ByteArray) : Option Document :=
  (Tree.parse text).map (Tree.document depth)

end Resilience.Json
