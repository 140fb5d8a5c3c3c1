/-
# Reading TOML character by character

* `Toml.Reader`: a function from a text to a value and the rest of the text.
* `Toml.loop`: repeats a step as long as each one leaves a shorter rest, so it always ends.
* `Toml.skipBlanks`, `skipLine`, `skipLines`: white space, comments and line ends.
-/

namespace Resilience.Toml

/-- Reads a value from the front of a text; `none` where the text has no such form. -/
abbrev Reader (α : Type) := List Char → Option (α × List Char)

/-- What a step of a loop comes to. -/
inductive Progress (σ ρ : Type) where
  | more (s : σ) (rest : List Char)
  | done (r : ρ) (rest : List Char)

/-- Repeats a step; a step that leaves no shorter rest fails. -/
def loop {σ ρ : Type} (step : σ → List Char → Option (Progress σ ρ)) (s : σ) (input : List Char) :
    Option (ρ × List Char) :=
  match step s input with
  | none => none
  | some (.done r rest) => some (r, rest)
  | some (.more s rest) => if rest.length < input.length then loop step s rest else none
termination_by input.length

/-- Whether the character is a blank within a line. -/
def isSpace (c : Char) : Bool := c == ' ' || c == '\t'

/-- Whether the character may stand in a comment or a string. -/
def isPlain (c : Char) : Bool := (c.toNat ≥ 0x20 && c.toNat ≠ 0x7f) || c == '\t'

/-- The text after its blanks. -/
def skipBlanks (s : List Char) : List Char := s.dropWhile isSpace

/-- The text after a line end. -/
def lineEnd? : List Char → Option (List Char)
  | '\n' :: rest => some rest
  | '\r' :: '\n' :: rest => some rest
  | _ => none

/-- The text after a comment, if there is one. -/
def skipComment (s : List Char) : List Char :=
  match s with
  | '#' :: rest => rest.dropWhile isPlain
  | _ => s

/-- Ends a line: blanks, perhaps a comment, and the line end or the end of the text. -/
def endLine : Reader Unit := fun s =>
  match skipComment (skipBlanks s) with
  | [] => some ((), [])
  | rest => (lineEnd? rest).map fun r => ((), r)

/-- Skips blanks, comments and line ends. -/
def skipLines : Reader Unit :=
  loop
    (fun () s =>
      let rest := skipComment (skipBlanks s)
      match lineEnd? rest with
      | some r => some (.more () r)
      | none => some (.done () rest))
    ()

/-- The value of a digit to base sixteen. -/
def hexDigit? (c : Char) : Option Nat :=
  if '0' ≤ c ∧ c ≤ '9' then some (c.toNat - '0'.toNat)
  else if 'a' ≤ c ∧ c ≤ 'f' then some (c.toNat - 'a'.toNat + 10)
  else if 'A' ≤ c ∧ c ≤ 'F' then some (c.toNat - 'A'.toNat + 10)
  else none

end Resilience.Toml
