/-
# Reading addresses

An address is read from the left: the scheme, user name and password, host, port, path, query and
fragment.  The special schemes have a host always, know the backslash as a slash, and have a usual
port; files have drive letters.

* `Url.parse`: the address that a text stands for, or what is wrong with it.
-/
import Resilience.Url.Basic
import Resilience.Url.Host

namespace Resilience.Url

/-- The kinds of schemes. -/
inductive SchemeKind where
  | file
  | special (port : Nat)
  | plain
deriving DecidableEq

/-- The kind of a scheme. -/
def SchemeKind.of : String → SchemeKind
  | "file" => .file
  | "http" | "ws" => .special 80
  | "https" | "wss" => .special 443
  | "ftp" => .special 21
  | _ => .plain

/-- Whether the backslash is a slash. -/
def SchemeKind.isSpecial : SchemeKind → Bool
  | .plain => false
  | _ => true

/-- Whether the character separates segments. -/
def SchemeKind.isSlash (k : SchemeKind) (c : Char) : Bool := c == '/' || k.isSpecial && c == '\\'

/-- Whether the character ends the authority. -/
def SchemeKind.endsAuthority (k : SchemeKind) (c : Char) : Bool := k.isSlash c || c == '?' || c == '#'

/-- The text without the blanks and control characters at its ends and without tabs and line ends. -/
def clean (s : List Char) : List Char :=
  let outer (c : Char) : Bool := c.toNat ≤ 0x20
  let inner := ((s.dropWhile outer).reverse.dropWhile outer).reverse
  inner.filter fun c => c ≠ '\t' ∧ c ≠ '\n' ∧ c ≠ '\r'

/-- The scheme and what follows its colon. -/
def readScheme (s : List Char) : Option (String × List Char) :=
  let isPart (c : Char) : Bool := c.isAlphanum || c == '+' || c == '-' || c == '.'
  match s.head?, s.dropWhile isPart with
  | some c, ':' :: rest =>
    if c.isAlpha then some (String.ofList ((s.takeWhile isPart).map Char.toLower), rest) else none
  | _, _ => none

/-! ## Query and fragment -/

/-- The query and the fragment of what follows a path. -/
def readTail (k : SchemeKind) (s : List Char) : Option String × Option String :=
  let set := if k.isSpecial then specialQuerySet else querySet
  let fragment (r : List Char) : String := String.ofList (encodeChars fragmentSet r)
  match s with
  | '?' :: rest =>
    let query := String.ofList (encodeChars set (rest.takeWhile (· ≠ '#')))
    match rest.dropWhile (· ≠ '#') with
    | _ :: r => (some query, some (fragment r))
    | [] => (some query, none)
  | '#' :: rest => (none, some (fragment rest))
  | _ => (none, none)

/-! ## The path -/

/-- Whether a segment is a letter and a colon or bar. -/
def isDrive : List Char → Bool
  | [c, d] => c.isAlpha && (d == ':' || d == '|')
  | _ => false

/-- Whether a segment is a letter and a colon. -/
def isPlainDrive : List Char → Bool
  | [c, ':'] => c.isAlpha
  | _ => false

/-- Whether a segment stands for the segment itself. -/
def isSingleDot (s : List Char) : Bool :=
  ["." , "%2e"].contains (String.ofList (s.map Char.toLower))

/-- Whether a segment stands for the one above. -/
def isDoubleDot (s : List Char) : Bool :=
  ["..", "%2e.", ".%2e", "%2e%2e"].contains (String.ofList (s.map Char.toLower))

/-- Leaves out the last segment, given first, unless it is the drive of a file. -/
def shorten (k : SchemeKind) : List (List Char) → List (List Char)
  | [drive] => if k = .file ∧ isPlainDrive drive then [drive] else []
  | _ :: above => above
  | [] => []

/-- Adds a segment to a path whose segments are given last first; `final` tells that no slash follows
it. -/
def addSegment (k : SchemeKind) (done : List (List Char)) (segment : List Char) (final : Bool) :
    List (List Char) :=
  if isDoubleDot segment then
    let above := shorten k done
    if final then [] :: above else above
  else if isSingleDot segment then if final then [] :: done else done
  else if k = .file ∧ done.isEmpty ∧ isDrive segment then (segment.take 1 ++ [':']) :: done
  else segment :: done

/-- The segments of a path after its first slash. -/
def readSegments (k : SchemeKind) (s : List Char) : List (List Char) :=
  let parts := splitAt '/' (s.map fun c => if k.isSlash c then '/' else c)
  let encoded := parts.map (encodeChars pathSet)
  let last := encoded.length - 1
  (encoded.zipIdx.foldl (fun done p => addSegment k done p.1 (p.2 == last)) []).reverse

/-- A path of segments; that of a file has no empty segments in front. -/
def pathOf (k : SchemeKind) (segments : List (List Char)) : Path :=
  let segments :=
    if k = .file then
      match segments.dropWhile List.isEmpty with
      | [] => [[]]
      | rest => rest
    else segments
  .segments (segments.map String.ofList)

/-- The path and what follows it. -/
def readPath (k : SchemeKind) (s : List Char) : Path × List Char :=
  let isEnd (c : Char) : Bool := c == '?' || c == '#'
  let path := s.takeWhile fun c => !isEnd c
  let rest := s.dropWhile fun c => !isEnd c
  match path with
  | [] => if k.isSpecial then (pathOf k [[]], rest) else (.segments [], rest)
  | c :: after =>
    if k.isSlash c then (pathOf k (readSegments k after), rest)
    else (pathOf k (readSegments k path), rest)

/-! ## The authority -/

/-- The port after a colon and what follows it. -/
def readPort (k : SchemeKind) (s : List Char) : Except Fault (Option Nat × List Char) :=
  let digits := s.takeWhile Char.isDigit
  let rest := s.dropWhile Char.isDigit
  let n := digits.foldl (fun acc c => acc * 10 + (c.toNat - '0'.toNat)) 0
  let ended := rest.head?.all fun c => c == '/' || c == '\\' || c == '?' || c == '#'
  if n > 65535 ∨ !ended then .error .port
  else .ok (if digits.isEmpty ∨ k = .special n then none else some n, rest)

/-- What stands before the last at sign of the authority, if there is one, and what follows. -/
def splitUser (k : SchemeKind) (s : List Char) : Option (List Char) × List Char :=
  let authority := s.takeWhile fun c => !k.endsAuthority c
  let afterAt := (authority.reverse.takeWhile (· ≠ '@')).reverse
  if '@' ∈ authority then
    let before := authority.length - afterAt.length - 1
    (some (authority.take before), s.drop (before + 1))
  else (none, s)

/-- The user name and password. -/
def readUser (s : List Char) : String × String :=
  let name := s.takeWhile (· ≠ ':')
  let password := (s.dropWhile (· ≠ ':')).drop 1
  (String.ofList (encodeChars userSet name), String.ofList (encodeChars userSet password))

/-- The host, between brackets or up to a colon or the end of the authority, and what follows. -/
def splitHost (k : SchemeKind) (inBrackets : Bool) : List Char → List Char × List Char
  | [] => ([], [])
  | c :: rest =>
    if (c == ':' && !inBrackets) || k.endsAuthority c then ([], c :: rest)
    else
      let inBrackets := if c = '[' then true else if c = ']' then false else inBrackets
      let (host, after) := splitHost k inBrackets rest
      (c :: host, after)

/-- Reads an address from behind the two slashes. -/
def readAuthority (scheme : String) (k : SchemeKind) (s : List Char) : Except Fault Url := do
  let (user, s) := splitUser k s
  let atEnd := s.head?.all k.endsAuthority
  if user = some [] ∧ s ≠ [] ∧ atEnd then throw .emptyHost
  let (username, password) := readUser (user.getD [])
  let (hostText, rest) := splitHost k false s
  if k.isSpecial ∧ hostText = [] then throw .emptyHost
  let host ← if k.isSpecial then readHost hostText else readOpaqueHost hostText
  if host = [] ∧ rest.head? = some ':' then throw .emptyHost
  let (port, rest) ←
    match rest with
    | ':' :: r => readPort k r
    | r => pure (none, r)
  let named := username ≠ "" ∨ password ≠ ""
  if host = [] ∧ named then throw .emptyHost
  let (path, rest) := readPath k rest
  let (query, fragment) := readTail k rest
  pure ⟨scheme, username, password, some (String.ofList host), port, path, query, fragment⟩

/-- Reads the address of a file from behind the colon. -/
def readFile (s : List Char) : Except Fault Url := do
  let build (host : String) (s : List Char) : Url :=
    let (path, rest) := readPath .file s
    let (query, fragment) := readTail .file rest
    ⟨"file", "", "", some host, none, path, query, fragment⟩
  match s with
  | a :: b :: rest =>
    if SchemeKind.file.isSlash a && SchemeKind.file.isSlash b then
      let hostText := rest.takeWhile fun c => !SchemeKind.file.endsAuthority c
      let after := rest.dropWhile fun c => !SchemeKind.file.endsAuthority c
      if hostText = [] then pure (build "" after)
      else if isDrive hostText then pure (build "" rest)
      else
        let host ← readHost hostText
        pure (build (if host = "localhost".toList then "" else String.ofList host) after)
    else pure (build "" s)
  | _ => pure (build "" s)

/-- Reads an address of one of the other schemes from behind the colon. -/
def readPlain (scheme : String) (s : List Char) : Except Fault Url :=
  match s with
  | '/' :: '/' :: rest => readAuthority scheme .plain rest
  | '/' :: _ =>
    let (path, rest) := readPath .plain s
    let (query, fragment) := readTail .plain rest
    .ok ⟨scheme, "", "", none, none, path, query, fragment⟩
  | _ =>
    let isEnd (c : Char) : Bool := c == '?' || c == '#'
    let path := String.ofList (encodeChars controlSet (s.takeWhile fun c => !isEnd c))
    let (query, fragment) := readTail .plain (s.dropWhile fun c => !isEnd c)
    .ok ⟨scheme, "", "", none, none, .flat path, query, fragment⟩

/-- The address that a text stands for. -/
def parse (s : String) : Except Fault Url :=
  match readScheme (clean s.toList) with
  | none => .error .relative
  | some (scheme, rest) =>
    match SchemeKind.of scheme with
    | .file => readFile rest
    | .special port =>
      readAuthority scheme (.special port) (rest.dropWhile fun c => c == '/' || c == '\\')
    | .plain => readPlain scheme rest

end Resilience.Url
