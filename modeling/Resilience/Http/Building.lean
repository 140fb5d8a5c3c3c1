/-
# Requests from what a caller gives

A caller gives an address as text and a body as a document; both may make no sense.

* `Request.make`: a request without a body for an address.
* `Request.makeWithBody`: the same with a body in memory.
* `Request.withDocument`: a request with a document as its body.
-/
import Resilience.Http.Request
import Resilience.Http.Response
import Resilience.Url.Reader

namespace Resilience.Request

/-- A request without a body. -/
def make (method address : String) : Except HttpError Request :=
  match Url.parse address with
  | .ok url => .ok { method, url }
  | .error f => .error (.ofUrl f)

/-- A request with a body in memory. -/
def makeWithBody (method address : String) (content : ByteArray) : Except HttpError Request :=
  (make method address).map fun r => r.withBody content

/-- Gives the request a document as its body, or passes on why there is no document. -/
def withDocument (r : Request) (document : Except String Json.Value) : Except HttpError Request :=
  match document with
  | .ok v => .ok (r.withJson v)
  | .error reason => .error (.ofEncoding reason)

end Resilience.Request
