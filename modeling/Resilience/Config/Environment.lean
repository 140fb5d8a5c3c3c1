/-
# Settings from environment variables

Each of thirteen variables overrides one field.  They are read in a fixed order; the first that cannot
be read ends the reading, and the fields before it stay overridden.

* `Environment`: variables with their values.
* `Override`, `overrides`: the variables and what they change.
* `Environment.overlay`: the settings after the overrides, and the fault if there is one.
-/
import Resilience.Config.Basic
import Resilience.Decimal.Reader
import Resilience.Text.Blank
import Resilience.Text.Quoted

namespace Resilience

/-- Variables with their values in bytes. -/
structure Environment where
  entries : List (String × ByteArray)

/-- The value of a variable; one that is no text counts as not set. -/
def Environment.get? (env : Environment) (name : String) : Option String :=
  (env.entries.lookup name).bind String.fromUTF8?

/-- A variable that cannot be read. -/
structure VariableFault where
  name : String
  reason : String
deriving DecidableEq

/-- A variable and what its value changes. -/
structure Override where
  name : String
  /-- The change that a value makes, or what is wrong with the value. -/
  read : String → Except String (ClientConfig → ClientConfig)

/-! ## Reading values -/

/-- What is wrong with a value, which is shown as it is. -/
def faultOf (reason raw : String) : String := reason ++ " (got " ++ Text.quoted raw ++ ")"

/-- Reads a natural number of at most `bound`, without blanks at its ends. -/
def readNaturalValue (bound : Nat) (raw : String) : Except String Nat :=
  (readNatural bound (Text.trim raw.toList)).mapError fun f => faultOf f.message raw

/-- Reads a double, without blanks at its ends. -/
def readDoubleValue (raw : String) : Except String Float :=
  (readDouble (Text.trim raw.toList)).mapError fun f => faultOf f.message raw

/-- Reads a span in milliseconds. -/
def readMillisValue (raw : String) : Except String Duration :=
  (readNaturalValue 18446744073709551615 raw).map fun n => .ofMillis (UInt64.ofNat n)

/-- Reads a truth value in one of its spellings, in any case and without blanks at its ends. -/
def readTruthValue (raw : String) : Except String Bool :=
  match String.ofList ((Text.trim raw.toList).map Char.toLower) with
  | "1" | "true" | "yes" | "on" => .ok true
  | "0" | "false" | "no" | "off" => .ok false
  | _ => .error ("expected a boolean, got " ++ Text.quoted raw)

/-- Reads a text, which is none if it is blank. -/
def readTextValue (raw : String) : Option String :=
  if (Text.trim raw.toList).isEmpty then none else some raw

/-! ## The variables -/

/-- A variable whose value is read by `read` and written by `write`. -/
def Override.of {α : Type} (name : String) (read : String → Except String α)
    (write : α → ClientConfig → ClientConfig) : Override :=
  ⟨name, fun raw => (read raw).map write⟩

/-- A variable with a natural number of 32 bits. -/
def Override.natural32 (name : String) (write : UInt32 → ClientConfig → ClientConfig) : Override :=
  .of name (readNaturalValue 4294967295) fun n => write (UInt32.ofNat n)

/-- The variables in the order in which they are read. -/
def overrides : List Override :=
  [.of "STEADFAST_CB_ENABLED" readTruthValue fun b c =>
     { c with breaker := { c.breaker with enabled := b } },
   .natural32 "STEADFAST_CB_FAILURE_THRESHOLD" fun n c =>
     { c with breaker := { c.breaker with failureThreshold := n } },
   .of "STEADFAST_CB_RESET_TIMEOUT_MS" readMillisValue fun d c =>
     { c with breaker := { c.breaker with resetTimeout := d } },
   .natural32 "STEADFAST_CB_HALF_OPEN_SUCCESSES" fun n c =>
     { c with breaker := { c.breaker with successesNeeded := n } },
   .of "STEADFAST_RETRY_ENABLED" readTruthValue fun b c =>
     { c with retry := { c.retry with enabled := b } },
   .natural32 "STEADFAST_RETRY_MAX_ATTEMPTS" fun n c =>
     { c with retry := { c.retry with maxAttempts := n } },
   .of "STEADFAST_RETRY_INITIAL_INTERVAL_MS" readMillisValue fun d c =>
     { c with retry := { c.retry with initialInterval := d } },
   .of "STEADFAST_RETRY_MAX_INTERVAL_MS" readMillisValue fun d c =>
     { c with retry := { c.retry with maxInterval := d } },
   .of "STEADFAST_RETRY_MULTIPLIER" readDoubleValue fun x c =>
     { c with retry := { c.retry with multiplier := x } },
   .of "STEADFAST_RETRY_RANDOM_FACTOR" readDoubleValue fun x c =>
     { c with retry := { c.retry with randomFactor := x } },
   .of "STEADFAST_SERVER_ERROR_THRESHOLD" (readNaturalValue 65535) fun n c =>
     { c with serverErrorThreshold := UInt16.ofNat n },
   .of "STEADFAST_HTTP_TIMEOUT_MS" readMillisValue fun d c =>
     { c with transport := { c.transport with timeout := d } },
   .of "STEADFAST_HTTP_USER_AGENT" (fun raw => .ok (readTextValue raw)) fun agent c =>
     { c with transport := { c.transport with userAgent := agent } }]

/-- Overrides fields in the order of the list, up to the first value that cannot be read. -/
def Environment.overlayWith (env : Environment) :
    List Override → ClientConfig → ClientConfig × Option VariableFault
  | [], c => (c, none)
  | o :: rest, c =>
    match env.get? o.name with
    | none => env.overlayWith rest c
    | some raw =>
      match o.read raw with
      | .ok change => env.overlayWith rest (change c)
      | .error reason => (c, some ⟨o.name, reason⟩)

/-- Overrides the fields whose variables are set. -/
def Environment.overlay (env : Environment) (c : ClientConfig) :
    ClientConfig × Option VariableFault :=
  env.overlayWith overrides c

end Resilience
