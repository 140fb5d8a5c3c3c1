/-
# Files with settings

* `FilePath`: a way to a file below a root, in which `..` may occur.
* `Files`: a tree of files and directories; `Files.find?` follows a way through it.
* `FilePath.extension?`: what follows the last point of a name.
* `Files.probe`: the first file found in the standard places.
-/

namespace Resilience

/-- A way from a root. -/
structure FilePath where
  root : String
  parts : List String
deriving DecidableEq

namespace FilePath

/-- The path as it is written. -/
def text (p : FilePath) : String := "/".intercalate (p.root :: p.parts)

/-- The path to a name below. -/
def join (p : FilePath) (name : String) : FilePath := { p with parts := p.parts ++ [name] }

/-- The names on the way, each `..` taking back the one before it. -/
def resolved (p : FilePath) : List String :=
  p.parts.foldl (fun done part => if part = ".." then done.dropLast else done ++ [part]) []

/-- What follows the last point of the name.  A name whose only point is its first character has no
extension. -/
def extension? (p : FilePath) : Option String :=
  match p.parts.getLast? with
  | none => none
  | some name =>
    if name = ".." then none
    else
      let chars := name.toList
      let last := (chars.reverse.takeWhile (· ≠ '.')).reverse
      if last.length = chars.length ∨ last.length + 1 = chars.length then none
      else some (String.ofList last)

end FilePath

/-- What is found at the end of a way. -/
inductive FileEntry where
  | directory
  | file (content : ByteArray)

/-- A tree of files and directories, each with the names on the way to it. -/
structure Files where
  entries : List (List String × FileEntry)

namespace Files

/-- What is found at a path; a directory is there also if only something below it is named. -/
def find? (fs : Files) (p : FilePath) : Option FileEntry :=
  let parts := p.resolved
  match fs.entries.lookup parts with
  | some e => some e
  | none => if fs.entries.any fun e => parts.isPrefixOf e.1 then some .directory else none

/-- The names of files with settings, in the order in which they are looked for. -/
def standardNames : List String := ["steadfast.json", "steadfast.toml"]

/-- The standard places: the working directory, the one above it, and the directory of the program; those
of them that are known. -/
def standardPlaces (workingDirectory programDirectory : Option FilePath) : List FilePath :=
  let around := workingDirectory.toList.flatMap fun d => [d, d.join ".."]
  (around ++ programDirectory.toList).flatMap fun d => standardNames.map d.join

/-- The first of the standard places where something is found. -/
def probe (fs : Files) (workingDirectory : Option FilePath)
    (programDirectory : Option FilePath := none) : Option FilePath :=
  (standardPlaces workingDirectory programDirectory).find? fun p => (fs.find? p).isSome

end Files

end Resilience
