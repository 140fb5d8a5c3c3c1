/-
# Hosts of addresses

A host of one of the special schemes is an address of version six between brackets, an address of
version four if its last label is a number, or else a domain.  Hosts of other schemes are kept as they
are.

* `Url.readHost`, `Url.readOpaqueHost`: the host as it is written in the end.
-/
import Resilience.Url.Domain
import Resilience.Url.Number

namespace Resilience.Url

/-- Reads a host of one of the special schemes. -/
def readHost (s : List Char) : Except Fault (List Char) :=
  if s.head? = some '[' then
    if s.getLast? = some ']' then readIpv6 (s.drop 1).dropLast else .error .ipv6
  else do
    let domain ← readDomain (decodeBytes s)
    if domain.isEmpty then .error .emptyHost
    else if endsInNumber domain then readIpv4 domain
    else .ok domain

/-- Whether a character may not occur in a host of any scheme. -/
def isForbiddenAnywhere (c : Char) : Bool :=
  c ∈ ['\x00', '\t', '\n', '\r', ' ', '#', '/', ':', '<', '>', '?', '@', '[', '\\', ']', '^', '|']

/-- Reads a host of any other scheme. -/
def readOpaqueHost (s : List Char) : Except Fault (List Char) :=
  if s.head? = some '[' then
    if s.getLast? = some ']' then readIpv6 (s.drop 1).dropLast else .error .ipv6
  else if s.any isForbiddenAnywhere then .error .hostCharacter
  else .ok (encodeChars controlSet s)

end Resilience.Url
