/-
# Domains

A domain is written in basic characters and in lower case; labels with other characters are encoded and
marked.

* `Url.lowerLetters`: a character in lower case and in its usual width.
* `Url.readDomain`: the domain as it is written in the end.
-/
import Resilience.Text.Printable
import Resilience.Url.Fault
import Resilience.Url.Punycode

namespace Resilience.Url

/-- Whether a basic character may not occur in a domain. -/
def isForbidden (c : Char) : Bool :=
  c.toNat ≤ 0x20 || c.toNat = 0x7f
    || c ∈ ['%', '#', '/', ':', '<', '>', '?', '@', '[', '\\', ']', '^', '|']

/-- Runs of capital letters, as first, last and step, with the distance to their lower case. -/
def capitals : List (Nat × Nat × Nat × Nat) := [
  (0x41, 0x5a, 1, 0x20), (0xc0, 0xd6, 1, 0x20), (0xd8, 0xde, 1, 0x20), (0x100, 0x12e, 2, 1),
  (0x132, 0x136, 2, 1), (0x139, 0x147, 2, 1), (0x14a, 0x176, 2, 1), (0x179, 0x17d, 2, 1),
  (0x386, 0x386, 1, 0x26), (0x388, 0x38a, 1, 0x25), (0x38c, 0x38c, 1, 0x40), (0x38e, 0x38f, 1, 0x3f),
  (0x391, 0x3a1, 1, 0x20), (0x3a3, 0x3ab, 1, 0x20), (0x400, 0x40f, 1, 0x50), (0x410, 0x42f, 1, 0x20),
  (0x460, 0x480, 2, 1), (0x48a, 0x4be, 2, 1), (0x4d0, 0x52e, 2, 1), (0x531, 0x556, 1, 0x30),
  (0x1e00, 0x1e94, 2, 1), (0x1ea0, 0x1efe, 2, 1)]

/-- Characters that are left out of a domain: they have no width or only choose a shape. -/
def isIgnored (n : Nat) : Bool :=
  n == 0xad || n == 0x34f || (0x180b ≤ n && n ≤ 0x180f) || n == 0x200b || n == 0x2060 || n == 0x2064
    || (0xfe00 ≤ n && n ≤ 0xfe0f) || n == 0xfeff || (0xe0100 ≤ n && n ≤ 0xe01ef)

/-- A character in lower case and in its usual width; nothing for one that is left out. -/
def lowerLetters (c : Char) : List Char :=
  let n := c.toNat
  if isIgnored n then []
  else
    let holds : Nat × Nat × Nat × Nat → Bool := fun (first, last, step, _) =>
      first ≤ n && n ≤ last && (n - first) % step == 0
    match capitals.find? holds with
    | some (_, _, _, distance) => [Char.ofNat (n + distance)]
    | none =>
      if n = 0x178 then ['ÿ']
      else if 0xff21 ≤ n ∧ n ≤ 0xff3a then [Char.ofNat (n - 0xff21 + 0x61)]
      else if 0xff01 ≤ n ∧ n ≤ 0xff5e then [Char.ofNat (n - 0xff01 + 0x21)]
      else if n = 0x3002 ∨ n = 0xff0e ∨ n = 0xff61 then ['.']
      else [c]

/-- Whether a character in lower case may occur in a domain. -/
def isDomainChar (c : Char) : Bool :=
  if c.toNat < 0x80 then !isForbidden c else Text.isPrintable c && c.toNat != 0xfffd

/-- What marks an encoded label. -/
def mark : List Char := ['x', 'n', '-', '-']

/-- A label in basic characters.  An encoded label has to stand for a label that is encoded like that. -/
def readLabel (label : List Char) : Except Fault (List Char) :=
  if !label.all (·.toNat < 0x80) then .ok (mark ++ encodeLabel label)
  else if mark.isPrefixOf label then
    match decodeLabel? (label.drop mark.length) with
    | none => .error .domain
    | some decoded =>
      let fixed := decoded.all fun c => isDomainChar c && lowerLetters c == [c]
      if fixed && mark ++ encodeLabel decoded == label && !decoded.all (·.toNat < 0x80) then .ok label
      else .error .domain
  else .ok label

/-- A domain in basic characters and lower case. -/
def readDomain (bytes : List UInt8) : Except Fault (List Char) :=
  match String.fromUTF8? ⟨bytes.toArray⟩ with
  | none => .error .domain
  | some s =>
    let mapped := s.toList.flatMap lowerLetters
    if mapped.all isDomainChar then do
      let labels ← (splitAt '.' mapped).mapM readLabel
      pure (['.'].intercalate labels)
    else .error .domain

end Resilience.Url
