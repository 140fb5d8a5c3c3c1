/-
# Tables under construction

The tables of a document are filled in any order, but each may be defined only once.  So a table that
is being built remembers how it came to be.

* `Toml.Item`, `Toml.Origin`: what stands under a key.
* `Toml.insertDotted`: puts a value under a dotted key.
* `Toml.openTable`, `openElement`: begin a table, or a further element of an array of tables.
* `Toml.updateAt`: changes the table that was begun last.
-/
import Resilience.Document

namespace Resilience.Toml

/-- How a table came to be. -/
inductive Origin where
  /-- On the way to a table below it. -/
  | implied
  /-- By a heading of its own. -/
  | heading
  /-- By a dotted key. -/
  | dotted
deriving DecidableEq

/-- What stands under a key. -/
inductive Item where
  /-- A value, to which nothing can be added. -/
  | value (d : Document)
  | table (origin : Origin) (members : List (String × Item))
  /-- An array of tables, the last first. -/
  | elements (l : List (List (String × Item)))

/-- The members of a table. -/
abbrev Members := List (String × Item)

/-- Replaces the item under a key, or adds it. -/
def put (key : String) (item : Item) : Members → Members
  | [] => [(key, item)]
  | m :: rest => if m.1 = key then (key, item) :: rest else m :: put key item rest

/-- Puts a value under a dotted key.  The last key must be new, and the table that it is put into must
be one that dotted keys have made, unless the key has no dots.  On the way, tables with a heading of
their own cannot be passed. -/
def insertDotted (d : Document) : List String → Members → Option Members
  | [], _ => none
  | [key], members =>
    if (members.lookup key).isSome then none else some (members ++ [(key, .value d)])
  | key :: path, members =>
    match members.lookup key with
    | none => do some (members ++ [(key, .table .dotted (← insertDotted d path []))])
    | some (.table .dotted inner) => do
      some (put key (.table .dotted (← insertDotted d path inner)) members)
    | some (.table .implied inner) =>
      if path.length = 1 then none
      else do some (put key (.table .implied (← insertDotted d path inner)) members)
    | some (.elements (last :: before)) =>
      if path.length = 1 then none
      else do some (put key (.elements ((← insertDotted d path last) :: before)) members)
    | some _ => none

/-- Changes the table at a path that exists. -/
def updateAt (change : Members → Option Members) : List String → Members → Option Members
  | [], members => change members
  | key :: path, members =>
    match members.lookup key with
    | some (.table origin inner) => do
      some (put key (.table origin (← updateAt change path inner)) members)
    | some (.elements (last :: before)) => do
      some (put key (.elements ((← updateAt change path last) :: before)) members)
    | _ => none

/-- Changes the table at a path; tables that are missing on the way are implied. -/
def updateThrough (change : Members → Option Members) : List String → Members → Option Members
  | [], members => change members
  | key :: path, members =>
    match members.lookup key with
    | none => do some (members ++ [(key, .table .implied (← updateThrough change path []))])
    | some (.table origin inner) => do
      some (put key (.table origin (← updateThrough change path inner)) members)
    | some (.elements (last :: before)) => do
      some (put key (.elements ((← updateThrough change path last) :: before)) members)
    | some _ => none

/-- Begins the table under a key: a new one, or one that is only implied so far. -/
def beginTable (key : String) (members : Members) : Option Members :=
  match members.lookup key with
  | none => some (members ++ [(key, .table .heading [])])
  | some (.table .implied inner) => some (put key (.table .heading inner) members)
  | some _ => none

/-- Begins a further element of the array of tables under a key. -/
def beginElement (key : String) (members : Members) : Option Members :=
  match members.lookup key with
  | none => some (members ++ [(key, .elements [[]])])
  | some (.elements l) => some (put key (.elements ([] :: l)) members)
  | some _ => none

/-- Begins the table at a path. -/
def openTable (path : List String) (root : Members) : Option Members := do
  updateThrough (beginTable (← path.getLast?)) path.dropLast root

/-- Begins an element at a path. -/
def openElement (path : List String) (root : Members) : Option Members := do
  updateThrough (beginElement (← path.getLast?)) path.dropLast root

mutual

/-- The document of an item. -/
def Item.document : Item → Document
  | .value d => d
  | .table _ members => .table (membersDocument members)
  | .elements l => .sequence (elementsDocument l).reverse

/-- The documents of members. -/
def membersDocument : List (String × Item) → List (String × Document)
  | [] => []
  | (key, item) :: rest => (key, item.document) :: membersDocument rest

/-- The documents of the elements of an array of tables. -/
def elementsDocument : List (List (String × Item)) → List Document
  | [] => []
  | members :: rest => .table (membersDocument members) :: elementsDocument rest

end

end Resilience.Toml
