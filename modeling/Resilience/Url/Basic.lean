/-
# Addresses

* `Url`: an address in its parts.
* `Url.text`: the address as it is written.
* `Url.isWeb`: whether the scheme is one that a request can be sent to.
* `Url.withoutCredentials`: the address without user name and password.
-/

namespace Resilience

/-- The path of an address. -/
inductive Url.Path where
  /-- A path that is no hierarchy. -/
  | flat (text : String)
  /-- Segments, each after a slash. -/
  | segments (l : List String)
deriving DecidableEq

/-- An address. -/
structure Url where
  scheme : String
  /-- The user name, empty if there is none. -/
  username : String
  password : String
  host : Option String
  /-- The port, unless it is the usual one of the scheme. -/
  port : Option Nat
  path : Url.Path
  query : Option String
  fragment : Option String
deriving DecidableEq

namespace Url

/-- The path as it is written. -/
def Path.text : Path → String
  | .flat s => s
  | .segments l => String.join (l.map fun s => "/" ++ s)

/-- The user name and password before the host. -/
def credentials (u : Url) : String :=
  if u.username = "" ∧ u.password = "" then ""
  else u.username ++ (if u.password = "" then "" else ":" ++ u.password) ++ "@"

/-- What stands between the scheme and the path.  Without a host, a path that begins with two slashes
is kept apart by a dot. -/
def authority (u : Url) : String :=
  match u.host with
  | some host =>
    "//" ++ u.credentials ++ host
      ++ (match u.port with
        | some n => ":" ++ toString n
        | none => "")
  | none => if u.path.text.startsWith "//" then "/." else ""

/-- The address as it is written. -/
def text (u : Url) : String :=
  u.scheme ++ ":" ++ u.authority ++ u.path.text
    ++ (match u.query with
      | some q => "?" ++ q
      | none => "")
    ++ (match u.fragment with
      | some f => "#" ++ f
      | none => "")

/-- Whether requests can be sent to the address. -/
def isWeb (u : Url) : Bool := u.scheme == "http" || u.scheme == "https"

/-- The address without user name and password. -/
def withoutCredentials (u : Url) : Url := { u with username := "", password := "" }

end Url

end Resilience
