/-
# Documents in TOML

* `Toml.readDocument`: the document that a text stands for, `none` if it is none.
* `Toml.readValue`: a value; arrays and inline tables nest at most eighty deep.
-/
import Resilience.Toml.Scalar
import Resilience.Toml.Table
import Resilience.Toml.Text

namespace Resilience.Toml

/-- Whether the character can stand in a key without quotes. -/
def isKeyChar (c : Char) : Bool := c.isAlphanum || c == '_' || c == '-'

/-- One key. -/
def readSimpleKey : Reader String := fun s =>
  match s with
  | '"' :: _ | '\'' :: _ => readLineText s
  | _ =>
    let key := s.takeWhile isKeyChar
    if key.isEmpty then none else some (String.ofList key, s.dropWhile isKeyChar)

/-- Keys between points. -/
def readKey : Reader (List String) :=
  loop
    (fun done s => do
      let (key, rest) ← readSimpleKey (skipBlanks s)
      let after := skipBlanks rest
      match after with
      | '.' :: next => some (.more (key :: done) next)
      | _ => some (.done (key :: done).reverse after))
    []

/-- A key, the equals sign and a value. -/
def readPair (value : Reader Document) : Reader (List String × Document) := fun s => do
  let (path, rest) ← readKey s
  match rest with
  | '=' :: rest =>
    let (d, rest) ← value (skipBlanks rest)
    some ((path, d), rest)
  | _ => none

/-- The rest of an array. -/
def readArray (value : Reader Document) : Reader Document :=
  loop
    (fun done s => do
      let ((), s) ← skipLines s
      match s with
      | ']' :: rest => some (.done (.sequence done.reverse) rest)
      | _ =>
        let (d, rest) ← value s
        let ((), rest) ← skipLines rest
        match rest with
        | ',' :: rest => some (.more (d :: done) rest)
        | ']' :: rest => some (.done (.sequence (d :: done).reverse) rest)
        | _ => none)
    []

/-- The rest of an inline table. -/
def readInlineTable (value : Reader Document) : Reader Document :=
  let finish (members : Members) : Document := .table (membersDocument members)
  loop
    (fun members s => do
      let ((), s) ← skipLines s
      match s with
      | '\x7d' :: rest => some (.done (finish members) rest)
      | _ =>
        let ((path, d), rest) ← readPair value s
        let members ← insertDotted d path members
        let ((), rest) ← skipLines rest
        match rest with
        | ',' :: rest => some (.more members rest)
        | '\x7d' :: rest => some (.done (finish members) rest)
        | _ => none)
    []

/-- A value whose arrays and inline tables nest at most `depth` deep. -/
def readValue : Nat → Reader Document
  | depth, '[' :: rest =>
    match depth with
    | 0 => none
    | depth + 1 => readArray (readValue depth) rest
  | depth, '\x7b' :: rest =>
    match depth with
    | 0 => none
    | depth + 1 => readInlineTable (readValue depth) rest
  | _, s@('"' :: _) | _, s@('\'' :: _) => (readText s).map fun p => (.text p.1, p.2)
  | _, s => readScalar s

/-- How deep arrays and inline tables may nest. -/
def maxDepth : Nat := 80

/-- A document under construction. -/
structure Draft where
  root : Members
  /-- The way to the table that was begun last. -/
  current : List String

/-- Reads a heading, behind its brackets, up to the closing ones. -/
def readHeading (close : List Char) : Reader (List String) := fun s => do
  let (path, rest) ← readKey s
  if close.isPrefixOf rest then some (path, rest.drop close.length) else none

/-- Reads one line of a document. -/
def readLine (draft : Draft) (s : List Char) : Option (Progress Draft Document) := do
  let ((), s) ← skipLines s
  match s with
  | [] => some (.done (.table (membersDocument draft.root)) [])
  | '[' :: '[' :: rest =>
    let (path, rest) ← readHeading [']', ']'] rest
    let ((), rest) ← endLine rest
    some (.more ⟨← openElement path draft.root, path⟩ rest)
  | '[' :: rest =>
    let (path, rest) ← readHeading [']'] rest
    let ((), rest) ← endLine rest
    some (.more ⟨← openTable path draft.root, path⟩ rest)
  | _ =>
    let ((path, d), rest) ← readPair (readValue maxDepth) s
    let ((), rest) ← endLine rest
    let root ← updateAt (insertDotted d path) draft.current draft.root
    some (.more ⟨root, draft.current⟩ rest)

/-- The document of a text, before which a byte order mark may stand. -/
def readDocument (text : String) : Option Document :=
  let s :=
    match text.toList with
    | '\ufeff' :: rest => rest
    | s => s
  (loop readLine ⟨[], []⟩ s).map Prod.fst

end Resilience.Toml
