/-
# What can be wrong with an address

* `Url.Fault`: why an address cannot be read, with its wording.
* `Url.splitAt`: a text in parts.
-/

namespace Resilience.Url

/-- Why an address cannot be read. -/
inductive Fault where
  | emptyHost
  | domain
  | port
  /-- The host ends in a number but is no address of version four. -/
  | ipv4
  /-- The host between brackets is no address of version six. -/
  | ipv6
  | hostCharacter
  | relative
deriving DecidableEq

/-- The wording of a fault. -/
def Fault.message : Fault → String
  | .emptyHost => "empty host"
  | .domain => "invalid international domain name"
  | .port => "invalid port number"
  | .ipv4 => "invalid IPv4 address"
  | .ipv6 => "invalid IPv6 address"
  | .hostCharacter => "invalid domain character"
  | .relative => "relative URL without a base"

/-- The parts between the occurrences of a character. -/
def splitAt (sep : Char) : List Char → List (List Char)
  | [] => [[]]
  | c :: rest =>
    if c = sep then [] :: splitAt sep rest
    else
      match splitAt sep rest with
      | part :: parts => (c :: part) :: parts
      | [] => [[c]]

end Resilience.Url
