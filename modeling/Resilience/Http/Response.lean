/-
# Responses and errors

An error either says something about the dependency (it could not be reached, it answered badly, it was
not tried at all) or about the caller (a context that has ended, a request or settings that make no
sense).

* `Response`: a response whose body has not been read.
* `HttpError`: the errors, with `LastFailure` for what the last of several attempts ended with and
  `Cause` for what lies behind a failed exchange.
* `NetworkError`: what the network library says of a failed exchange, with the error made of it.
* `HttpError.isDependencyFailure`: which errors count against the dependency.
* `HttpError.message`, `sources`, `isRetryable`, `severity`, `retryAfter`: what a caller can ask.
* `Response.bytes`, `Response.text`: reading the body.
-/
import Resilience.Config.Basic
import Resilience.Context
import Resilience.Http.Headers
import Resilience.Http.Status
import Resilience.Json.Value
import Resilience.Severity
import Resilience.Text.Utf8
import Resilience.Url.Host

namespace Resilience

/-- The body of a response. -/
inductive ResponseBody where
  | buffered (content : ByteArray)
  /-- Bytes that are still to arrive. -/
  | streaming (content : ByteArray)
  /-- Bytes after which the connection breaks. -/
  | broken (content : ByteArray)

/-- A response whose body has not been read. -/
structure Response where
  status : Status
  headers : Headers := .empty
  body : ResponseBody := .buffered .empty

/-- What went wrong with an exchange. -/
inductive TransportKind where
  | connect
  | timeout
  | request
  | body
  | decode
  | other
deriving DecidableEq

/-- The name of the kind. -/
def TransportKind.label : TransportKind → String
  | .connect => "connect"
  | .timeout => "timeout"
  | .request => "request"
  | .body => "body"
  | .decode => "decode"
  | .other => "transport"

mutual

/-- Why a request has no response. -/
inductive HttpError where
  | circuitOpen (retryAfter : Option Duration)
  /-- Another attempt would need the body again. -/
  | bodyNotRetriable
  | maxRetriesExceeded (attempts : Nat) (last : LastFailure)
  | transport (kind : TransportKind) (message : String) (cause : Cause)
  | cancelled
  | deadlineExceeded
  | invalidRequest (reason : String)
  | config (fault : ConfigFault)

/-- What the last attempt ended with. -/
inductive LastFailure where
  | error (e : HttpError)
  | response (r : Response)

/-- What lies behind a failed exchange. -/
inductive Cause where
  /-- Nothing that is known. -/
  | none
  | text (message : String)
  | http (e : HttpError)
  | network
  | decoder

end

/-- What the network library says of a failed exchange. -/
structure NetworkError where
  isTimeout : Bool := false
  isConnect : Bool := false
  isBody : Bool := false
  isDecode : Bool := false
  /-- The request could not be sent. -/
  isRequest : Bool := false
  /-- The request could not be built. -/
  isBuilder : Bool := false
  /-- The wording of the library. -/
  message : String
deriving DecidableEq

namespace NetworkError

/-- What went wrong.  More than one mark may be set; the first of them decides. -/
def kind (e : NetworkError) : TransportKind :=
  if e.isTimeout then .timeout
  else if e.isConnect then .connect
  else if e.isBody then .body
  else if e.isDecode then .decode
  else if e.isRequest || e.isBuilder then .request
  else .other

/-- The error that the caller gets.  It has the wording of the library, unless the time was over or
there was no connection. -/
def error (e : NetworkError) : HttpError :=
  let message :=
    match e.kind with
    | .timeout => "HTTP request timed out"
    | .connect => "HTTP connection failure"
    | _ => e.message
  .transport e.kind message .network

end NetworkError

namespace Response

/-- Gives the response a body in memory. -/
def withBody (r : Response) (content : ByteArray) : Response := { r with body := .buffered content }

/-- The response as a record. -/
def describe (r : Response) : String :=
  let body :=
    match r.body with
    | .buffered content => "buffered(" ++ toString content.size ++ " bytes)"
    | _ => "streaming"
  Text.record "HttpResponse"
    [("status", toString r.status.code),
     ("headers", r.headers.describe),
     ("body", Text.quoted body)]

end Response

namespace HttpError

/-- The error of a context that has ended. -/
def ofContext : ContextEnd → HttpError
  | .cancelled => .cancelled
  | .deadlineExceeded => .deadlineExceeded

/-- The error of an address that cannot be read. -/
def ofUrl (f : Url.Fault) : HttpError := .invalidRequest ("invalid URL: " ++ f.message)

/-- The error of a document that cannot be written. -/
def ofEncoding (reason : String) : HttpError :=
  .invalidRequest ("failed to encode JSON body: " ++ reason)

/-- Whether the error counts against the dependency. -/
def isDependencyFailure : HttpError → Bool
  | .transport .. | .maxRetriesExceeded .. | .circuitOpen .. => true
  | _ => false

/-- The response that the last attempt ended with. -/
def lastResponse? : HttpError → Option Response
  | .maxRetriesExceeded _ (.response r) => some r
  | _ => none

/-- Whether the same request may go well later. -/
def isRetryable : HttpError → Bool
  | .circuitOpen _ => true
  | .transport kind _ _ => kind ≠ .decode
  | .maxRetriesExceeded .. => true
  | _ => false

/-- How bad the error is. -/
def severity : HttpError → Severity
  | .cancelled | .deadlineExceeded => .info
  | .circuitOpen _ | .transport .. => .warning
  | _ => .error

/-- When the request may be sent again, if that is known. -/
def retryAfter : HttpError → Option Duration
  | .circuitOpen d => d
  | _ => none

end HttpError

mutual

/-- The wording of the error. -/
def HttpError.message : HttpError → String
  | .circuitOpen _ => "circuit breaker is open, request rejected"
  | .bodyNotRetriable =>
    "request body cannot be replayed for a retry; supply a body replay accessor"
  | .maxRetriesExceeded attempts last =>
    "maximum retries exceeded after " ++ toString attempts ++ " attempts: " ++ last.message
  | .transport kind message _ => kind.label ++ " error: " ++ message
  | .cancelled => "request cancelled"
  | .deadlineExceeded => "request deadline exceeded"
  | .invalidRequest reason => "invalid request: " ++ reason
  | .config fault => fault.message

/-- The wording of the failure. -/
def LastFailure.message : LastFailure → String
  | .error e => e.message
  | .response r => "server responded with status " ++ r.status.text

end

namespace LastFailure

/-- Whether the same request may go well later. -/
def isRetryable : LastFailure → Bool
  | .error e => e.isRetryable
  | .response _ => true

/-- How bad the failure is. -/
def severity : LastFailure → Severity
  | .error e => e.severity
  | .response _ => .warning

end LastFailure

/-- An error behind another one. -/
inductive Source where
  | text (message : String)
  | network
  | decoder
deriving DecidableEq

mutual

/-- The errors behind the error, nearest first. -/
def HttpError.sources : HttpError → List Source
  | .maxRetriesExceeded _ last => .text last.message :: last.sources
  | .transport _ _ cause => cause.sources
  | _ => []

/-- The errors behind the failure. -/
def LastFailure.sources : LastFailure → List Source
  | .error e => .text e.message :: e.sources
  | .response _ => []

/-- The cause and the errors behind it. -/
def Cause.sources : Cause → List Source
  | .none => []
  | .text message => [.text message]
  | .http e => .text e.message :: e.sources
  | .network => [.network]
  | .decoder => [.decoder]

end

namespace Response

/-- Reads the body. -/
def bytes (r : Response) : Except HttpError ByteArray :=
  match r.body with
  | .buffered content | .streaming content => .ok content
  | .broken _ =>
    .error ({ isDecode := true, message := "error decoding response body" } : NetworkError).error

/-- Reads the body as text. -/
def text (r : Response) : Except HttpError String := do
  match Text.decode (← r.bytes) with
  | .ok s => .ok s
  | .error fault =>
    .error (.transport .decode "response body is not valid UTF-8" (.text fault.message))

/-- Reads the body as a document, from which `read` takes a value. -/
def json {α : Type} (r : Response) (read : ByteArray → Option α) : Except HttpError α := do
  match read (← r.bytes) with
  | some a => .ok a
  | none => .error (.transport .decode "failed to decode JSON body" .decoder)

end Response

end Resilience
