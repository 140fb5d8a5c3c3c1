/-
# Strings of TOML

* `Toml.readText`: a string in one of its four forms.
* `Toml.readLineText`: a string on one line, as keys have it.
-/
import Resilience.Toml.Scan

namespace Resilience.Toml

/-- The character of a code point given by so many digits. -/
def readCodePoint (count : Nat) : Reader Char := fun s => do
  let digits := s.take count
  if digits.length < count then none
  let values ← digits.mapM hexDigit?
  let n := values.foldl (fun acc d => acc * 16 + d) 0
  if n.isValidChar then some (Char.ofNat n, s.drop count) else none

/-- The character of an escape, behind the backslash. -/
def readEscape : Reader Char
  | 'b' :: rest => some ('\x08', rest)
  | 't' :: rest => some ('\t', rest)
  | 'n' :: rest => some ('\n', rest)
  | 'f' :: rest => some ('\x0c', rest)
  | 'r' :: rest => some ('\r', rest)
  | 'e' :: rest => some ('\x1b', rest)
  | '"' :: rest => some ('"', rest)
  | '\\' :: rest => some ('\\', rest)
  | 'x' :: rest => readCodePoint 2 rest
  | 'u' :: rest => readCodePoint 4 rest
  | 'U' :: rest => readCodePoint 8 rest
  | _ => none

/-- The text of characters given last first. -/
def textOf (done : List Char) : String := String.ofList done.reverse

/-- The rest of a string on one line; `quote` ends it, and the double quote allows escapes. -/
def readLineRest (quote : Char) : Reader String :=
  loop
    (fun done s =>
      match s with
      | [] => none
      | c :: rest =>
        if c = quote then some (.done (textOf done) rest)
        else if c = '\\' ∧ quote = '"' then
          (readEscape rest).map fun p => .more (p.1 :: done) p.2
        else if isPlain c then some (.more (c :: done) rest)
        else none)
    []

/-- The text after the blanks and line ends that a backslash at the end of a line skips. -/
def skipContinuation (s : List Char) : Option (List Char) :=
  (lineEnd? (skipBlanks s)).map fun rest =>
    rest.dropWhile fun c => isSpace c || c == '\n' || c == '\r'

/-- The rest of a string on several lines.  Three quotes end it, to which up to two more may belong. -/
def readBlockRest (quote : Char) : Reader String :=
  loop
    (fun done s =>
      match s with
      | [] => none
      | c :: rest =>
        if c = quote then
          let quotes := (s.takeWhile (· = quote)).length
          if quotes < 3 then some (.more (c :: done) rest)
          else if quotes ≤ 5 then
            some (.done (textOf (List.replicate (quotes - 3) quote ++ done)) (s.drop quotes))
          else none
        else if c = '\\' ∧ quote = '"' then
          match skipContinuation rest with
          | some after => some (.more done after)
          | none => (readEscape rest).map fun p => .more (p.1 :: done) p.2
        else
          match lineEnd? s with
          | some after => some (.more ('\n' :: done) after)
          | none => if isPlain c then some (.more (c :: done) rest) else none)
    []

/-- A string on one line. -/
def readLineText : Reader String
  | '"' :: rest => readLineRest '"' rest
  | '\'' :: rest => readLineRest '\'' rest
  | _ => none

/-- The text after a line end at its beginning. -/
def skipFirstLineEnd (s : List Char) : List Char := (lineEnd? s).getD s

/-- A string. -/
def readText : Reader String
  | '"' :: '"' :: '"' :: rest => readBlockRest '"' (skipFirstLineEnd rest)
  | '\'' :: '\'' :: '\'' :: rest => readBlockRest '\'' (skipFirstLineEnd rest)
  | s => readLineText s

end Resilience.Toml
