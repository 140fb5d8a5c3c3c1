/-
# Addresses of hosts by number

* `Url.readIpv4`: an address of version four, whose parts may be written to several bases and be left out.
* `Url.readIpv6`: an address of version six, written with its longest run of zeros left out.
-/
import Resilience.Text.Quoted
import Resilience.Url.Fault
import Resilience.Url.Percent

namespace Resilience.Url

/-! ## Version four -/

/-- A number of an address of version four. -/
inductive Part where
  | invalid
  | overflow
  | value (n : Nat)
deriving DecidableEq

/-- The number that digits stand for in a base. -/
def numberOf (base : Nat) (digits : List Char) : Part :=
  match digits.mapM fun c => (hexDigit? c).filter (· < base) with
  | none => .invalid
  | some values =>
    let n := values.foldl (fun acc d => acc * base + d) 0
    if n < 4294967296 then .value n else .overflow

/-- Reads a number, to base sixteen after `0x`, to base eight after `0`. -/
def readPart : List Char → Part
  | [] => .invalid
  | '0' :: 'x' :: rest | '0' :: 'X' :: rest => if rest.isEmpty then .value 0 else numberOf 16 rest
  | ['0'] => .value 0
  | '0' :: rest => numberOf 8 rest
  | s => numberOf 10 s

/-- Whether the last label of a domain is a number. -/
def endsInNumber (domain : List Char) : Bool :=
  let labels := (splitAt '.' domain).reverse
  let last :=
    match labels with
    | [] :: last :: _ => last
    | last :: _ => last
    | [] => []
  (last ≠ [] ∧ last.all Char.isDigit) || readPart last ≠ .invalid

/-- Reads an address of version four. -/
def readIpv4 (domain : List Char) : Except Fault (List Char) :=
  let labels := splitAt '.' domain
  let labels := if labels.getLast? = some [] then labels.dropLast else labels
  let numbers := labels.mapM fun l =>
    match readPart l with
    | .value n => some n
    | _ => none
  match numbers with
  | none => .error .ipv4
  | some numbers =>
    match numbers.reverse with
    | [] => .error .ipv4
    | last :: front =>
      if front.length > 3 ∨ front.any (· > 255) ∨ 1 <<< (8 * (4 - front.length)) ≤ last then .error .ipv4
      else
        let n := front.reverse.zipIdx.foldl (fun acc p => acc + p.1 <<< (8 * (3 - p.2))) last
        let bytes := [n / 16777216 % 256, n / 65536 % 256, n / 256 % 256, n % 256]
        .ok (".".intercalate (bytes.map toString)).toList

/-! ## Version six -/

/-- Reads up to four digits to base sixteen. -/
def readPiece (s : List Char) : Option Nat :=
  if s.isEmpty ∨ s.length > 4 then none
  else (s.mapM hexDigit?).map fun values => values.foldl (fun acc d => acc * 16 + d) 0

/-- Reads four decimal numbers between points as two pieces. -/
def readDotted (s : List Char) : Option (List Nat) :=
  let number (part : List Char) : Option Nat :=
    let zeroFirst := part.length > 1 ∧ part.head? = some '0'
    if part.isEmpty ∨ part.length > 3 ∨ !part.all Char.isDigit ∨ zeroFirst then none
    else
      let n := part.foldl (fun acc c => acc * 10 + (c.toNat - '0'.toNat)) 0
      if n ≤ 255 then some n else none
  match (splitAt '.' s).mapM number with
  | some [a, b, c, d] => some [a * 256 + b, c * 256 + d]
  | _ => none

/-- Reads pieces between colons; the last may be four decimal numbers if `dotted`. -/
def readPieces (dotted : Bool) (s : List Char) : Option (List Nat) :=
  if s.isEmpty then some []
  else
    let parts := splitAt ':' s
    let front := parts.dropLast.mapM readPiece
    let last := (parts.getLast?.getD [])
    let last := if dotted ∧ '.' ∈ last then readDotted last else (readPiece last).map ([·])
    match front, last with
    | some front, some last => some (front ++ last)
    | _, _ => none

/-- Where two colons stand for a run of zeros: what is before and after them. -/
def splitDoubleColon : List Char → Option (List Char × List Char)
  | ':' :: ':' :: rest => some ([], rest)
  | c :: rest => (splitDoubleColon rest).map fun p => (c :: p.1, p.2)
  | [] => none

/-- The eight pieces of an address of version six. -/
def readIpv6Pieces (s : List Char) : Option (List Nat) :=
  match splitDoubleColon s with
  | none => do
    let pieces ← readPieces true s
    if pieces.length = 8 then some pieces else none
  | some (before, after) => do
    let front ← readPieces false before
    let back ← readPieces true after
    if front.length + back.length ≤ 7 then
      some (front ++ List.replicate (8 - front.length - back.length) 0 ++ back)
    else none

/-- The longest run of zeros, as its start and length. -/
def longestZeros (pieces : List Nat) : Nat × Nat :=
  let runs := (List.range pieces.length).map fun i => (i, ((pieces.drop i).takeWhile (· == 0)).length)
  runs.foldl (fun best r => if best.2 < r.2 then r else best) (0, 0)

/-- Writes an address of version six, the first longest run of at least two zeros as two colons. -/
def writeIpv6 (pieces : List Nat) : List Char :=
  let text (l : List Nat) : List Char :=
    (":".intercalate (l.map fun n => String.ofList (Nat.toDigits 16 n))).toList
  let (start, length) := longestZeros pieces
  let body :=
    if length < 2 then text pieces
    else text (pieces.take start) ++ "::".toList ++ text (pieces.drop (start + length))
  ['['] ++ body ++ [']']

/-- Reads an address of version six without its brackets. -/
def readIpv6 (s : List Char) : Except Fault (List Char) :=
  match readIpv6Pieces s with
  | some pieces => .ok (writeIpv6 pieces)
  | none => .error .ipv6

end Resilience.Url
