/-
# JSON documents as they are written

The tree of a document keeps what reading a value may still refuse: numbers of any size, strings that
encode no text, members of one name.  It is built by a machine with a stack, so that documents may
nest without bound.

* `Json.Tree`: the tree.
* `Json.Tree.parse`: the tree of a text, `none` if the text is no document.
-/
import Resilience.Json.Token

namespace Resilience.Json

/-- The tree of a document. -/
inductive Tree where
  | null
  | truth (b : Bool)
  | number (n : NumberText)
  | string (text : Option String)
  | array (items : List Tree)
  /-- The members of an object in order, names that encode no text as `none`. -/
  | object (members : List (Option String × Tree))

instance : Inhabited Tree := ⟨.null⟩

/-- An array or object that is not closed yet. -/
inductive Frame where
  /-- An array with its items, last first. -/
  | array (items : List Tree)
  /-- An object with its members, last first. -/
  | object (members : List (Option String × Tree))
  /-- An object in which the value of `name` is being read. -/
  | member (members : List (Option String × Tree)) (name : Option String)

/-- What may come next. -/
inductive Expect where
  | value
  | firstItem
  | firstName
  | name
  | colon
  | separator
deriving DecidableEq

/-- The machine that builds a tree. -/
structure Builder where
  /-- What is open, innermost first. -/
  stack : List Frame
  expect : Expect
  last : Tree

/-- Takes a finished value. -/
def Builder.take (b : Builder) (t : Tree) : Builder := { b with expect := .separator, last := t }

/-- The value that a token is by itself. -/
def Token.scalar? : Token → Option Tree
  | .null => some .null
  | .truth b => some (.truth b)
  | .number n => some (.number n)
  | .string s => some (.string s)
  | _ => none

/-- Begins a value. -/
def Builder.value (b : Builder) : Token → Option Builder
  | .openArray => some { b with stack := .array [] :: b.stack, expect := .firstItem }
  | .openObject => some { b with stack := .object [] :: b.stack, expect := .firstName }
  | t => t.scalar?.map b.take

/-- Reads a name. -/
def Builder.name (b : Builder) (t : Token) : Option Builder :=
  match t, b.stack with
  | .string s, .object members :: rest =>
    some { b with stack := .member members s :: rest, expect := .colon }
  | _, _ => none

/-- Continues after a value. -/
def Builder.separate (b : Builder) (t : Token) : Option Builder :=
  match t, b.stack with
  | .comma, .array items :: rest =>
    some { b with stack := .array (b.last :: items) :: rest, expect := .value }
  | .closeArray, .array items :: rest =>
    some ({ b with stack := rest }.take (.array (b.last :: items).reverse))
  | .comma, .member members name :: rest =>
    some { b with stack := .object ((name, b.last) :: members) :: rest, expect := .name }
  | .closeObject, .member members name :: rest =>
    some ({ b with stack := rest }.take (.object ((name, b.last) :: members).reverse))
  | _, _ => none

/-- Reads one token. -/
def Builder.step (b : Builder) (t : Token) : Option Builder :=
  match b.expect, t with
  | .firstItem, .closeArray => some ({ b with stack := b.stack.tail }.take (.array []))
  | .firstName, .closeObject => some ({ b with stack := b.stack.tail }.take (.object []))
  | .value, t | .firstItem, t => b.value t
  | .name, t | .firstName, t => b.name t
  | .colon, .colon => some { b with expect := .value }
  | .colon, _ => none
  | .separator, t => b.separate t

/-- The tree of a sequence of tokens. -/
def Tree.ofTokens? (tokens : List Token) : Option Tree := do
  let b ← tokens.foldlM Builder.step ⟨[], .value, .null⟩
  if b.stack.isEmpty ∧ b.expect = .separator then some b.last else none

/-- The tree of a text. -/
def Tree.parse (text : ByteArray) : Option Tree := do
  Tree.ofTokens? (← Token.scan text.data.toList)

end Resilience.Json
