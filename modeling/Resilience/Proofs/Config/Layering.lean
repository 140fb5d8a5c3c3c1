/-
# Layers of settings

Settings have fourteen fields.  Thirteen of them can be given by a variable, all of them by a document,
and all have a default.  They stand in one table, `clientFields`, with their places in documents, their
variables and their defaults.  This file says that laying variables over what a document gives makes of
each field what its variable gives, or else what the document gives, or else the default.

What is said of a field is said without the readers: a variable is set to a text, a document has something
in a place, and each kind of values says what stands for them (`ValueKind`).  A variable that is set to
bytes that encode no text counts as not set.

The argument has two halves.

* **Reading.**  A document is read field by field, so what it gives can be said for each row of the table
  alone (`ofDocument?_eq_some_iff_reads`).
* **Overriding.**  An override writes one field and leaves the others (`clientFields_independent`).  By
  induction over the overrides, what a field holds in the end is what its own variable made of it
  (`Environment.overlaid_overlayOf`).

`Layers` says what the fields are, and `IsBase.overlaid_iff` brings the halves together.
-/
import Resilience.Config.Loading
import Resilience.Proofs.Config.Doubles
import Resilience.Proofs.Config.Fields

namespace Resilience

/-! ## 1. The table of settings -/

/-- A kind of values: how they are read, and what stands for them. -/
structure ValueKind (α : Type) where
  /-- Reads a value from a document. -/
  read : Document → Option α
  /-- Reads the value of a variable. -/
  parse : String → Except String α
  /-- What stands for a value in a document. -/
  InDocument : Document → α → Prop
  /-- The texts of a value in a variable. -/
  InVariable : String → α → Prop
  read_eq_some_iff : ∀ {d a}, read d = some a ↔ InDocument d a
  parse_eq_ok_iff : ∀ {raw a}, parse raw = .ok a ↔ InVariable raw a

namespace ValueKind

/-- Truth values, of which variables have several spellings. -/
def truth : ValueKind Bool where
  read := Document.truth?
  parse := readTruthValue
  InDocument d b := d = .truth b
  InVariable := IsTruthValue
  read_eq_some_iff := Document.truth?_eq_some_iff
  parse_eq_ok_iff := readTruthValue_eq_ok_iff

/-- Natural numbers of 32 bits. -/
def natural32 : ValueKind UInt32 where
  read := Document.natural32?
  parse raw := (readNaturalValue 4294967295 raw).map UInt32.ofNat
  InDocument d n := d = .integer n.toNat
  InVariable raw n := IsNumeral raw n.toNat
  read_eq_some_iff := Document.natural32?_eq_some_iff
  parse_eq_ok_iff := natural32_eq_ok_iff

/-- Natural numbers of 16 bits. -/
def natural16 : ValueKind UInt16 where
  read := Document.natural16?
  parse raw := (readNaturalValue 65535 raw).map UInt16.ofNat
  InDocument d n := d = .integer n.toNat
  InVariable raw n := IsNumeral raw n.toNat
  read_eq_some_iff := Document.natural16?_eq_some_iff
  parse_eq_ok_iff := natural16_eq_ok_iff

/-- Spans, in milliseconds. -/
def millis : ValueKind Duration where
  read := Duration.ofDocument?
  parse := readMillisValue
  InDocument d span := ∃ n : UInt64, d = .integer n.toNat ∧ span.nanos = n.toNat * 1000000
  InVariable raw span := ∃ n : UInt64, IsNumeral raw n.toNat ∧ span.nanos = n.toNat * 1000000
  read_eq_some_iff := Document.ofDocument?_eq_some_iff
  parse_eq_ok_iff := readMillisValue_eq_ok_iff

/-- Doubles; documents may have whole numbers in their place. -/
def double : ValueKind Float where
  read := Document.double?
  parse := readDoubleValue
  InDocument d x := d = .double x ∨
    (∃ n : UInt64, d = .integer n.toNat ∧ x = n.toFloat) ∨
      ∃ n : UInt64, 0 < n.toNat ∧ n.toNat ≤ 9223372036854775808 ∧ d = .integer (-n.toNat) ∧
        x = -n.toFloat
  InVariable := IsDouble
  read_eq_some_iff := Document.double?_eq_some_iff
  parse_eq_ok_iff := readDoubleValue_eq_ok_iff

/-- Texts that may be absent; a blank variable makes them so. -/
def optionalText : ValueKind (Option String) where
  read := Document.optional? Document.text?
  parse raw := .ok (readTextValue raw)
  InDocument d agent := d = .null ∧ agent = none ∨ ∃ t, d = .text t ∧ agent = some t
  InVariable := IsTextOrBlank
  read_eq_some_iff := Document.optional?_text?_eq_some_iff
  parse_eq_ok_iff := by
    intro raw agent
    rw [Except.ok.injEq, readTextValue_eq_iff]

end ValueKind

/-- One field of the settings. -/
structure ClientField where
  Value : Type
  kind : ValueKind Value
  /-- What a document gives for the field. -/
  given? : Document → Option Document
  /-- The variable that overrides the field. -/
  overriddenBy : Option String
  default : Value
  get : ClientConfig → Value
  write : Value → ClientConfig → ClientConfig

/-- What a document gives in one of its parts. -/
def Document.givenIn? (part : String) (names : List String) (name : String) (d : Document) :
    Option Document :=
  (d.given? ClientConfig.fieldNames part).bind fun p => p.given? names name

open Document

/-- The fields of the settings. -/
def clientFields : List ClientField :=
  [⟨Bool, .truth, givenIn? "circuit_breaker" BreakerConfig.fieldNames "enabled",
      some "STEADFAST_CB_ENABLED", true, fun c => c.breaker.enabled,
      fun b c => { c with breaker := { c.breaker with enabled := b } }⟩,
   ⟨UInt32, .natural32, givenIn? "circuit_breaker" BreakerConfig.fieldNames "failure_threshold",
      some "STEADFAST_CB_FAILURE_THRESHOLD", 5, fun c => c.breaker.failureThreshold,
      fun n c => { c with breaker := { c.breaker with failureThreshold := n } }⟩,
   ⟨Duration, .millis, givenIn? "circuit_breaker" BreakerConfig.fieldNames "reset_timeout",
      some "STEADFAST_CB_RESET_TIMEOUT_MS", .ofMillis 60000, fun c => c.breaker.resetTimeout,
      fun d c => { c with breaker := { c.breaker with resetTimeout := d } }⟩,
   ⟨UInt32, .natural32,
      givenIn? "circuit_breaker" BreakerConfig.fieldNames "half_open_success_needed",
      some "STEADFAST_CB_HALF_OPEN_SUCCESSES", 2, fun c => c.breaker.successesNeeded,
      fun n c => { c with breaker := { c.breaker with successesNeeded := n } }⟩,
   ⟨Bool, .truth, givenIn? "retry" RetryConfig.fieldNames "enabled",
      some "STEADFAST_RETRY_ENABLED", true, fun c => c.retry.enabled,
      fun b c => { c with retry := { c.retry with enabled := b } }⟩,
   ⟨UInt32, .natural32, givenIn? "retry" RetryConfig.fieldNames "max_attempts",
      some "STEADFAST_RETRY_MAX_ATTEMPTS", 3, fun c => c.retry.maxAttempts,
      fun n c => { c with retry := { c.retry with maxAttempts := n } }⟩,
   ⟨Duration, .millis, givenIn? "retry" RetryConfig.fieldNames "initial_interval",
      some "STEADFAST_RETRY_INITIAL_INTERVAL_MS", .ofMillis 100, fun c => c.retry.initialInterval,
      fun d c => { c with retry := { c.retry with initialInterval := d } }⟩,
   ⟨Duration, .millis, givenIn? "retry" RetryConfig.fieldNames "max_interval",
      some "STEADFAST_RETRY_MAX_INTERVAL_MS", .ofMillis 30000, fun c => c.retry.maxInterval,
      fun d c => { c with retry := { c.retry with maxInterval := d } }⟩,
   ⟨Float, .double, givenIn? "retry" RetryConfig.fieldNames "multiplier",
      some "STEADFAST_RETRY_MULTIPLIER", 2.0, fun c => c.retry.multiplier,
      fun x c => { c with retry := { c.retry with multiplier := x } }⟩,
   ⟨Float, .double, givenIn? "retry" RetryConfig.fieldNames "random_factor",
      some "STEADFAST_RETRY_RANDOM_FACTOR", 0.5, fun c => c.retry.randomFactor,
      fun x c => { c with retry := { c.retry with randomFactor := x } }⟩,
   ⟨UInt16, .natural16, given? ClientConfig.fieldNames "server_error_threshold",
      some "STEADFAST_SERVER_ERROR_THRESHOLD", 500, fun c => c.serverErrorThreshold,
      fun n c => { c with serverErrorThreshold := n }⟩,
   ⟨Duration, .millis, givenIn? "transport" TransportConfig.fieldNames "timeout",
      some "STEADFAST_HTTP_TIMEOUT_MS", .ofMillis 30000, fun c => c.transport.timeout,
      fun d c => { c with transport := { c.transport with timeout := d } }⟩,
   ⟨Duration, .millis, givenIn? "transport" TransportConfig.fieldNames "connect_timeout",
      none, .zero, fun c => c.transport.connectTimeout,
      fun d c => { c with transport := { c.transport with connectTimeout := d } }⟩,
   ⟨Option String, .optionalText, givenIn? "transport" TransportConfig.fieldNames "user_agent",
      some "STEADFAST_HTTP_USER_AGENT", none, fun c => c.transport.userAgent,
      fun agent c => { c with transport := { c.transport with userAgent := agent } }⟩]

variable {env : Environment} {doc? : Option Document} {d : Document} {b c c' : ClientConfig}
  {s t : ClientField}

/-- The fields of the table are all there are. -/
theorem eq_of_clientFields (h : ∀ s ∈ clientFields, s.get c = s.get c') : c = c' := by
  obtain ⟨⟨_, _, _, _⟩, ⟨_, _, _, _, _, _⟩, _, ⟨_, _, _⟩⟩ := c
  obtain ⟨⟨_, _, _, _⟩, ⟨_, _, _, _, _, _⟩, _, ⟨_, _, _⟩⟩ := c'
  simp only [clientFields, List.forall_mem_cons] at h
  obtain ⟨rfl, rfl, rfl, rfl, rfl, rfl, rfl, rfl, rfl, rfl, rfl, rfl, rfl, rfl, -⟩ := h
  rfl

/-- The defaults of the table are those of settings nothing is said about. -/
theorem get_default : ∀ s ∈ clientFields, s.get {} = s.default := by
  simp only [clientFields, List.forall_mem_cons]
  simp

/-- What is written to a field is there. -/
theorem get_write : ∀ s ∈ clientFields, ∀ v c, s.get (s.write v c) = v := by
  simp only [clientFields, List.forall_mem_cons]
  simp

/-- Writing either of two fields leaves the other. -/
def ClientField.Independent (s t : ClientField) : Prop :=
  (∀ v c, t.get (s.write v c) = t.get c) ∧ ∀ v c, s.get (t.write v c) = s.get c

/-- Different fields are different places. -/
theorem clientFields_independent : clientFields.Pairwise ClientField.Independent := by
  simp only [clientFields, List.pairwise_cons, List.forall_mem_cons]
  simp [ClientField.Independent]

/-! ## 2. What a document gives for each field -/

/-- The value of the field without variables: what the document gives, or else the default. -/
def ClientField.Based (s : ClientField) (doc? : Option Document) (value : s.Value) : Prop :=
  (∀ given, doc?.bind s.given? = some given → s.kind.InDocument given value) ∧
    (doc?.bind s.given? = none → value = s.default)

/-- The value that is read for the field before any override. -/
def ClientField.base? (s : ClientField) (doc? : Option Document) : Option s.Value :=
  Document.readField s.kind.read s.default (doc?.bind s.given?)

theorem ClientField.base?_eq_some_iff {value : s.Value} :
    s.base? doc? = some value ↔ s.Based doc? value := by
  rw [base?, Based]
  cases doc?.bind s.given? with
  | none => simp [Document.readField, eq_comm]
  | some given => simp [Document.readField, s.kind.read_eq_some_iff]

/-- The parts of the settings with the names of their fields. -/
def parts : List (String × List String) :=
  [("circuit_breaker", BreakerConfig.fieldNames), ("retry", RetryConfig.fieldNames),
   ("transport", TransportConfig.fieldNames)]

/-- The document and its parts are records. -/
def Document.HasRecords (d : Document) : Prop :=
  d.IsRecord ClientConfig.fieldNames ∧
    ∀ part ∈ parts, ∀ p, d.given? ClientConfig.fieldNames part.1 = some p → p.IsRecord part.2

/-- The document is one of settings: it and its parts are records, and whatever is given for a field stands
for a value of it. -/
def Document.IsSettings (d : Document) : Prop :=
  d.HasRecords ∧ ∀ s ∈ clientFields, ∀ given, s.given? d = some given →
    ∃ v, s.kind.InDocument given v

/-- **A document is read field by field.** -/
theorem ofDocument?_eq_some_iff_reads : ClientConfig.ofDocument? d = some b ↔
    d.HasRecords ∧ ∀ s ∈ clientFields, s.base? (some d) = some (s.get b) := by
  rw [ClientConfig.ofDocument?_eq_some_iff]
  simp only [Document.HasRecords, clientFields, parts, List.forall_mem_cons, ClientField.base?,
    Option.bind_some, Document.givenIn?, ValueKind.truth, ValueKind.natural32,
    ValueKind.natural16, ValueKind.millis, ValueKind.double, ValueKind.optionalText]
  constructor
  · rintro ⟨hd, hbreaker, hretry, threshold, htransport⟩
    obtain ⟨hb, enabled, failures, timeout, needed⟩ := BreakerConfig.readField_eq_some_iff.mp hbreaker
    obtain ⟨hr, retry, attempts, initial, longest, multiplier, factor⟩ :=
      RetryConfig.readField_eq_some_iff.mp hretry
    obtain ⟨ht, time, connect, agent⟩ := TransportConfig.readField_eq_some_iff.mp htransport
    exact ⟨⟨hd, hb, hr, ht, nofun⟩, enabled, failures, timeout, needed, retry, attempts, initial,
      longest, multiplier, factor, threshold, time, connect, agent, nofun⟩
  · rintro ⟨⟨hd, hb, hr, ht, -⟩, enabled, failures, timeout, needed, retry, attempts, initial,
      longest, multiplier, factor, threshold, time, connect, agent, -⟩
    exact ⟨hd, BreakerConfig.readField_eq_some_iff.mpr ⟨hb, enabled, failures, timeout, needed⟩,
      RetryConfig.readField_eq_some_iff.mpr
        ⟨hr, retry, attempts, initial, longest, multiplier, factor⟩,
      threshold, TransportConfig.readField_eq_some_iff.mpr ⟨ht, time, connect, agent⟩⟩

/-- A field has a value before any override unless what is given for it stands for none. -/
theorem ClientField.isSome_base? : (s.base? (some d)).isSome ↔
    ∀ given, s.given? d = some given → ∃ v, s.kind.InDocument given v := by
  rw [base?, Option.bind_some]
  cases s.given? d with
  | none => simp [Document.readField]
  | some given => simp [Document.readField, Option.isSome_iff_exists, s.kind.read_eq_some_iff]

/-- Values of all fields make settings. -/
theorem exists_clientConfig (h : ∀ s ∈ clientFields, (s.base? doc?).isSome) :
    ∃ b : ClientConfig, ∀ s ∈ clientFields, s.base? doc? = some (s.get b) := by
  simp only [clientFields, List.forall_mem_cons, Option.isSome_iff_exists] at h ⊢
  obtain ⟨⟨_, enabled⟩, ⟨_, failures⟩, ⟨_, timeout⟩, ⟨_, needed⟩, ⟨_, retry⟩, ⟨_, attempts⟩,
    ⟨_, initial⟩, ⟨_, longest⟩, ⟨_, multiplier⟩, ⟨_, factor⟩, ⟨_, threshold⟩, ⟨_, time⟩,
    ⟨_, connect⟩, ⟨_, agent⟩, -⟩ := h
  exact ⟨⟨⟨_, _, _, _⟩, ⟨_, _, _, _, _, _⟩, _, ⟨_, _, _⟩⟩, enabled, failures, timeout, needed, retry,
    attempts, initial, longest, multiplier, factor, threshold, time, connect, agent, nofun⟩

/-- **A document can be read exactly if it is one of settings.** -/
theorem isSettings_iff : d.IsSettings ↔ ∃ b, ClientConfig.ofDocument? d = some b := by
  simp only [ofDocument?_eq_some_iff_reads, Document.IsSettings, ← ClientField.isSome_base?]
  constructor
  · rintro ⟨hd, h⟩
    obtain ⟨b, hb⟩ := exists_clientConfig h
    exact ⟨b, hd, hb⟩
  · rintro ⟨b, hd, h⟩
    exact ⟨hd, fun s hs => by simp [h s hs]⟩

/-! ## 3. What a variable gives for its field -/

/-- The variable of the field is set to the text. -/
def ClientField.SetTo (s : ClientField) (env : Environment) (raw : String) : Prop :=
  ∃ name, s.overriddenBy = some name ∧ env.entries.lookup name = some raw.toUTF8

/-- The variable of the field is set to bytes that encode no text. -/
def ClientField.Garbled (s : ClientField) (env : Environment) : Prop :=
  ∃ name bytes, s.overriddenBy = some name ∧ env.entries.lookup name = some bytes ∧
    ∀ raw : String, raw.toUTF8 ≠ bytes

/-- A variable that is set to a byte that begins no character. -/
def strayByte : Environment := ⟨[("STEADFAST_RETRY_MAX_ATTEMPTS", ⟨#[0xff]⟩)]⟩

/-- No value is written like this. -/
theorem strayByte_garbled : ∃ s ∈ clientFields,
    s.overriddenBy = some "STEADFAST_RETRY_MAX_ATTEMPTS" ∧ s.Garbled strayByte :=
  ⟨clientFields[5], List.getElem_mem _, rfl, _, _, rfl, rfl,
    fromUTF8?_eq_none_iff.mp (by decide +kernel)⟩

/-- The variable of the field, if it is set to a text, is set to that of a value. -/
def ClientField.Readable (s : ClientField) (env : Environment) : Prop :=
  ∀ raw, s.SetTo env raw → ∃ v, s.kind.InVariable raw v

/-- The variable of the field is set to a text that is that of no value; the fault has the name of the
variable and the reader's reason. -/
def ClientField.Faulty (s : ClientField) (env : Environment) (fault : VariableFault) : Prop :=
  ∃ raw, s.overriddenBy = some fault.name ∧ s.SetTo env raw ∧ (∀ v, ¬ s.kind.InVariable raw v) ∧
    s.kind.parse raw = .error fault.reason

/-- The fault is the first one, in the order of the table. -/
def Environment.FirstFault (env : Environment) (fault : VariableFault) : Prop :=
  ∃ done bad after, clientFields = done ++ bad :: after ∧ bad.Faulty env fault ∧
    ∀ s ∈ done, s.Readable env

/-- Every variable that is set to a text is set to that of a value. -/
def Environment.Readable (env : Environment) : Prop := ∀ s ∈ clientFields, s.Readable env

/-- None of the variables is set to a text. -/
def Environment.Silent (env : Environment) : Prop := ∀ s ∈ clientFields, ∀ raw, ¬ s.SetTo env raw

/-- What the variable of the field gives: nothing if it is not set to a text, or a fault, or a value. -/
def ClientField.fromVariable? (s : ClientField) (env : Environment) :
    Option (Except VariableFault s.Value) :=
  s.overriddenBy.bind fun name =>
    (env.get? name).map fun raw => (s.kind.parse raw).mapError fun reason => ⟨name, reason⟩

/-- What is wrong with the variable of the field. -/
def ClientField.fault? (s : ClientField) (env : Environment) : Option VariableFault :=
  match s.fromVariable? env with
  | some (.error fault) => some fault
  | _ => none

/-- The first fault, in the order of the table. -/
def Environment.firstFault? (env : Environment) : Option VariableFault :=
  clientFields.findSome? fun s => s.fault? env

namespace ClientField

variable {raw raw' : String} {fault : VariableFault} {v : s.Value}

/-- A variable is set to one text at most. -/
theorem SetTo.unique (h : s.SetTo env raw) (h' : s.SetTo env raw') : raw = raw' := by
  obtain ⟨name, hname, hraw⟩ := h
  obtain ⟨name', hname', hraw'⟩ := h'
  cases hname.symm.trans hname'
  have hsame := Option.some.inj (hraw.symm.trans hraw')
  rwa [String.toUTF8_eq_toByteArray, String.toUTF8_eq_toByteArray, String.toByteArray_inj] at hsame

/-- A garbled variable is set to no text. -/
theorem Garbled.not_setTo (h : s.Garbled env) : ¬ s.SetTo env raw := by
  obtain ⟨name, bytes, hname, hbytes, hno⟩ := h
  rintro ⟨name', hname', hraw⟩
  cases hname.symm.trans hname'
  exact hno raw (Option.some.inj (hraw.symm.trans hbytes))

/-- What is given by a variable is made of its text. -/
theorem fromVariable?_eq_some_iff {result : Except VariableFault s.Value} :
    s.fromVariable? env = some result ↔ ∃ name raw, s.overriddenBy = some name ∧ s.SetTo env raw ∧
      (s.kind.parse raw).mapError (fun reason => ⟨name, reason⟩) = result := by
  simp only [fromVariable?, Option.bind_eq_some_iff, Option.map_eq_some_iff,
    Environment.get?_eq_some_iff]
  constructor
  · rintro ⟨name, hname, raw, hraw, hresult⟩
    exact ⟨name, raw, hname, ⟨name, hname, hraw⟩, hresult⟩
  · rintro ⟨name, raw, hname, ⟨name', hname', hraw⟩, hresult⟩
    cases hname.symm.trans hname'
    exact ⟨name, hname, raw, hraw, hresult⟩

/-- Nothing is given by a variable that is set to no text. -/
theorem fromVariable?_eq_none_iff : s.fromVariable? env = none ↔ ∀ raw, ¬ s.SetTo env raw := by
  simp only [Option.eq_none_iff_forall_ne_some, ne_eq, fromVariable?_eq_some_iff]
  constructor
  · rintro h raw ⟨name, hname, hraw⟩
    exact h _ ⟨name, raw, hname, ⟨name, hname, hraw⟩, rfl⟩
  · rintro h result ⟨name, raw, -, hraw, -⟩
    exact h raw hraw

/-- A value is given by a variable that is set to one of its texts. -/
theorem fromVariable?_eq_ok_iff : s.fromVariable? env = some (.ok v) ↔
    ∃ raw, s.SetTo env raw ∧ s.kind.InVariable raw v := by
  rw [fromVariable?_eq_some_iff]
  simp only [← s.kind.parse_eq_ok_iff]
  constructor
  · rintro ⟨name, raw, -, hraw, hresult⟩
    cases hparse : s.kind.parse raw with
    | error reason => simp [hparse, Except.mapError] at hresult
    | ok w =>
      rw [hparse] at hresult
      exact ⟨raw, hraw, hparse.trans (congrArg Except.ok (Except.ok.inj hresult))⟩
  · rintro ⟨raw, ⟨name, hname, hraw⟩, hparse⟩
    exact ⟨name, raw, hname, ⟨name, hname, hraw⟩, by rw [hparse]; rfl⟩

/-- What a variable says of a value, and what it leaves to others if it is not set, by what it gives. -/
theorem variable_iff {unset : Prop} :
    ((∀ raw, s.SetTo env raw → s.kind.InVariable raw v) ∧ ((∀ raw, ¬ s.SetTo env raw) → unset)) ↔
      match s.fromVariable? env with
      | none => unset
      | some result => result = .ok v := by
  cases hv : s.fromVariable? env with
  | none =>
    have hunset := fromVariable?_eq_none_iff.mp hv
    exact ⟨fun h => h.2 hunset, fun h => ⟨fun raw hraw => absurd hraw (hunset raw), fun _ => h⟩⟩
  | some result =>
    obtain ⟨name, raw, -, hraw, -⟩ := fromVariable?_eq_some_iff.mp hv
    constructor
    · intro h
      have hok := fromVariable?_eq_ok_iff.mpr ⟨raw, hraw, h.1 raw hraw⟩
      exact Option.some.inj (hv.symm.trans hok)
    · rintro rfl
      obtain ⟨raw', hraw', hvalue⟩ := fromVariable?_eq_ok_iff.mp hv
      refine ⟨fun raw'' hraw'' => ?_, fun hunset => absurd hraw (hunset raw)⟩
      rwa [hraw''.unique hraw']

/-- A fault is given by a variable that is set to a text of no value. -/
theorem fromVariable?_eq_error_iff : s.fromVariable? env = some (.error fault) ↔
    s.Faulty env fault := by
  rw [fromVariable?_eq_some_iff]
  simp only [Faulty, ← s.kind.parse_eq_ok_iff]
  constructor
  · rintro ⟨name, raw, hname, hraw, hresult⟩
    cases hparse : s.kind.parse raw with
    | ok w => simp [hparse, Except.mapError] at hresult
    | error reason =>
      rw [hparse] at hresult
      obtain rfl := Except.error.inj hresult
      exact ⟨raw, hname, hraw, by simp [hparse], hparse⟩
  · rintro ⟨raw, hname, hraw, -, hparse⟩
    exact ⟨fault.name, raw, hname, hraw, by rw [hparse]; rfl⟩

/-- A variable can be read exactly if it has no fault. -/
theorem readable_iff : s.Readable env ↔ ∀ fault, ¬ s.Faulty env fault := by
  constructor
  · rintro h fault ⟨raw, -, hraw, hno, -⟩
    obtain ⟨v, hv⟩ := h raw hraw
    exact hno v hv
  · intro h raw hraw
    by_contra hno
    obtain ⟨name, hname, hlookup⟩ := hraw
    cases hparse : s.kind.parse raw with
    | ok v => exact hno ⟨v, s.kind.parse_eq_ok_iff.mp hparse⟩
    | error reason =>
      exact h ⟨name, reason⟩ ⟨raw, hname, ⟨name, hname, hlookup⟩, not_exists.mp hno, hparse⟩

theorem fault?_eq_some_iff : s.fault? env = some fault ↔ s.Faulty env fault := by
  rw [← fromVariable?_eq_error_iff]
  unfold fault?
  split <;> simp_all

theorem fault?_eq_none_iff : s.fault? env = none ↔ s.Readable env := by
  simp only [readable_iff, Option.eq_none_iff_forall_ne_some, ne_eq, fault?_eq_some_iff]

end ClientField

theorem Environment.firstFault?_eq_none_iff : env.firstFault? = none ↔ env.Readable := by
  simp only [firstFault?, List.findSome?_eq_none_iff, ClientField.fault?_eq_none_iff,
    Environment.Readable]

theorem Environment.firstFault?_eq_some_iff {fault : VariableFault} :
    env.firstFault? = some fault ↔ env.FirstFault fault := by
  simp only [firstFault?, List.findSome?_eq_some_iff, ClientField.fault?_eq_some_iff,
    ClientField.fault?_eq_none_iff, Environment.FirstFault]

/-- The override of the field, if there is one. -/
def ClientField.override? (s : ClientField) : Option Override :=
  s.overriddenBy.map fun name => .of name s.kind.parse s.write

/-- A value that is made of another is made of what that one is read from. -/
theorem Override.of_map {α β : Type} {name : String} {read : String → Except String α} {f : α → β}
    {write : β → ClientConfig → ClientConfig} :
    Override.of name (fun raw => (read raw).map f) write =
      Override.of name read fun a => write (f a) := by
  rw [of, of]
  congr 1
  funext raw
  cases read raw <;> rfl

/-- The table has the overrides in their order. -/
theorem overrides_eq : overrides = clientFields.filterMap ClientField.override? := by
  simp only [clientFields, ClientField.override?, ValueKind.truth, ValueKind.natural32,
    ValueKind.natural16, ValueKind.millis, ValueKind.double, ValueKind.optionalText,
    Option.map_some, Option.map_none, List.filterMap_cons, List.filterMap_nil, Override.of_map]
  rfl

/-! ## 4. Overriding -/

/-- What a field holds after its variable: the value that the variable is set to, or what it held before. -/
def ClientField.Overlaid (s : ClientField) (env : Environment) (before after : s.Value) : Prop :=
  (∀ raw, s.SetTo env raw → s.kind.InVariable raw after) ∧
    ((∀ raw, ¬ s.SetTo env raw) → after = before)

/-- The same, by what the variable gives. -/
theorem ClientField.overlaid_iff {before after : s.Value} : s.Overlaid env before after ↔
    match s.fromVariable? env with
    | none => after = before
    | some result => result = .ok after :=
  variable_iff

/-- The overrides of these fields in turn. -/
def Environment.overlayOf (env : Environment) (ss : List ClientField) (b : ClientConfig) :
    ClientConfig × Option VariableFault :=
  env.overlayWith (ss.filterMap ClientField.override?) b

variable {ss : List ClientField}

/-- **One override**: the field is left or written, or the overriding ends here. -/
theorem Environment.overlayOf_cons (env : Environment) (s : ClientField) (ss : List ClientField)
    (b : ClientConfig) :
    env.overlayOf (s :: ss) b =
      match s.fromVariable? env with
      | none => env.overlayOf ss b
      | some (.ok v) => env.overlayOf ss (s.write v b)
      | some (.error fault) => (b, some fault) := by
  rw [overlayOf, List.filterMap_cons, ClientField.override?, ClientField.fromVariable?]
  cases s.overriddenBy with
  | none => rfl
  | some name =>
    simp only [Option.map_some, Option.bind_some, overlayWith, Override.of]
    cases env.get? name with
    | none => rfl
    | some raw =>
      simp only [Option.map_some]
      cases s.kind.parse raw <;> rfl

/-- Overriding ends at the first fault. -/
theorem Environment.overlayOf_snd (env : Environment) (ss : List ClientField) (b : ClientConfig) :
    (env.overlayOf ss b).2 = ss.findSome? fun s => s.fault? env := by
  induction ss generalizing b with
  | nil => rfl
  | cons s ss ih =>
    rw [overlayOf_cons, List.findSome?_cons, ClientField.fault?]
    split <;> simp_all

/-- Overriding other fields leaves a field. -/
theorem Environment.get_overlayOf (h : ∀ t ∈ ss, s.Independent t) :
    s.get (env.overlayOf ss b).1 = s.get b := by
  induction ss generalizing b with
  | nil => rfl
  | cons t ss ih =>
    obtain ⟨ht, hss⟩ := List.forall_mem_cons.mp h
    rw [overlayOf_cons]
    split
    · exact ih hss
    · exact (ih hss).trans (ht.2 _ _)
    · rfl

/-- **A run of overrides**: without a fault, each field holds what its own variable made of it. -/
theorem Environment.overlaid_overlayOf (hss : ss.Pairwise ClientField.Independent)
    (hwrite : ∀ s ∈ ss, ∀ v c, s.get (s.write v c) = v) (hok : (env.overlayOf ss b).2 = none) :
    ∀ s ∈ ss, s.Overlaid env (s.get b) (s.get (env.overlayOf ss b).1) := by
  induction ss generalizing b with
  | nil => nofun
  | cons s ss ih =>
    obtain ⟨hs, hss⟩ := List.pairwise_cons.mp hss
    obtain ⟨hw, hwrite⟩ := List.forall_mem_cons.mp hwrite
    rw [overlayOf_cons] at hok ⊢
    cases hv : s.fromVariable? env with
    | none =>
      rw [hv] at hok
      refine List.forall_mem_cons.mpr ⟨?_, ih hss hwrite hok⟩
      rw [ClientField.overlaid_iff, hv]
      exact get_overlayOf hs
    | some result =>
      rw [hv] at hok
      cases result with
      | error fault => simp at hok
      | ok v =>
        refine List.forall_mem_cons.mpr ⟨?_, fun t ht => ?_⟩
        · rw [ClientField.overlaid_iff, hv]
          exact congrArg Except.ok ((get_overlayOf hs).trans (hw _ _)).symm
        · have := ih hss hwrite hok t ht
          rwa [(hs t ht).1] at this

theorem Environment.overlay_eq : env.overlay b = env.overlayOf clientFields b := by
  rw [overlay, overrides_eq, overlayOf]

theorem Environment.overlay_snd : (env.overlay b).2 = env.firstFault? := by
  rw [overlay_eq, overlayOf_snd, firstFault?]

/-- What the variables make of settings is determined by what they make of each field. -/
theorem ClientField.Overlaid.unique {v w w' : s.Value} (h : s.Overlaid env v w)
    (h' : s.Overlaid env v w') : w = w' := by
  rw [overlaid_iff] at h h'
  cases hr : s.fromVariable? env with
  | none =>
    rw [hr] at h h'
    exact h.trans h'.symm
  | some result =>
    rw [hr] at h h'
    exact Except.ok.inj (h.symm.trans h')

/-- A field that holds what its variable is set to holds it after the variable once more. -/
theorem ClientField.Overlaid.again {v w : s.Value} (h : s.Overlaid env v w) : s.Overlaid env w w :=
  ⟨h.1, fun _ => rfl⟩

/-- **The variables can be laid over settings exactly if they are readable**, and then each field holds
what its own variable makes of it. -/
theorem Environment.apply_eq_ok_iff : env.apply b = .ok c ↔
    env.Readable ∧ ∀ s ∈ clientFields, s.Overlaid env (s.get b) (s.get c) := by
  have hrun : env.Readable →
      ∀ s ∈ clientFields, s.Overlaid env (s.get b) (s.get (env.overlay b).1) := by
    intro hr
    rw [overlay_eq]
    refine overlaid_overlayOf clientFields_independent get_write ?_
    rw [overlayOf_snd]
    exact firstFault?_eq_none_iff.mpr hr
  have happly : env.apply b = .ok c ↔ env.Readable ∧ (env.overlay b).1 = c := by
    rw [← firstFault?_eq_none_iff, ← overlay_snd (b := b), apply]
    split <;> simp_all
  rw [happly]
  refine and_congr_right fun hr => ⟨?_, fun h => ?_⟩
  · rintro rfl
    exact hrun hr
  · exact eq_of_clientFields fun s hs => (hrun hr s hs).unique (h s hs)

/-- Variables cannot be laid over settings exactly if one has a fault, and the first is the reason. -/
theorem Environment.apply_eq_error_iff {f : LoadFault} : env.apply b = .error f ↔
    ∃ fault, env.FirstFault fault ∧ f = .variable fault := by
  simp only [← firstFault?_eq_some_iff, ← overlay_snd (b := b), apply]
  rcases env.overlay b with ⟨merged, _ | fault⟩ <;> simp [eq_comm]

/-! ## 5. The three layers -/

/-- The value of a field: what its variable is set to, or else what it is without variables. -/
def ClientField.Layered (s : ClientField) (env : Environment) (doc? : Option Document) (value : s.Value) :
    Prop :=
  (∀ raw, s.SetTo env raw → s.kind.InVariable raw value) ∧
    ((∀ raw, ¬ s.SetTo env raw) → s.Based doc? value)

/-- Every field of the settings is layered. -/
def Layers (env : Environment) (doc? : Option Document) (c : ClientConfig) : Prop :=
  ∀ s ∈ clientFields, s.Layered env doc? (s.get c)

theorem ClientField.overlaid_iff_layered {before after : s.Value} (h : s.base? doc? = some before) :
    s.Overlaid env before after ↔ s.Layered env doc? after := by
  rw [Overlaid, Layered, ← base?_eq_some_iff, h, Option.some.injEq, eq_comm (a := after)]

/-- A layered value, by what the variable gives and by what is there without it. -/
theorem ClientField.layered_iff {value : s.Value} : s.Layered env doc? value ↔
    match s.fromVariable? env with
    | none => s.base? doc? = some value
    | some result => result = .ok value := by
  simp only [base?_eq_some_iff]
  exact variable_iff

/-- The settings before any override: those that the document gives. -/
def IsBase (doc? : Option Document) (b : ClientConfig) : Prop :=
  ∀ s ∈ clientFields, s.base? doc? = some (s.get b)

theorem IsBase.overlaid_iff (hb : IsBase doc? b) :
    (∀ s ∈ clientFields, s.Overlaid env (s.get b) (s.get c)) ↔ Layers env doc? c :=
  forall₂_congr fun s hs => s.overlaid_iff_layered (hb s hs)

/-- No variable is set where there is none. -/
theorem Environment.silent_nil : Environment.Silent ⟨[]⟩ := by
  rintro s hs raw ⟨name, -, hraw⟩
  cases hraw

theorem Environment.Silent.readable (h : env.Silent) : env.Readable :=
  fun s hs raw hraw => absurd hraw (h s hs raw)

/-- Without a variable set, settings stay as they are. -/
theorem Environment.Silent.apply_eq (h : env.Silent) : env.apply b = .ok b :=
  apply_eq_ok_iff.mpr ⟨h.readable, fun s hs => ⟨fun raw hraw => absurd hraw (h s hs raw), fun _ => rfl⟩⟩

/-- Settings over a document are unique, and are there if the variables can be read. -/
theorem IsBase.existsUnique_layers (hb : IsBase doc? b) (hread : env.Readable) :
    ∃! c, Layers env doc? c := by
  have hlaid : ∀ c, env.apply b = .ok c ↔ Layers env doc? c := fun c => by
    rw [Environment.apply_eq_ok_iff, hb.overlaid_iff, and_iff_right hread]
  simp only [← hlaid]
  cases happly : env.apply b with
  | error f =>
    obtain ⟨fault, hfault, -⟩ := Environment.apply_eq_error_iff.mp happly
    rw [← Environment.firstFault?_eq_some_iff, Environment.firstFault?_eq_none_iff.mpr hread] at hfault
    cases hfault
  | ok c => exact ⟨c, rfl, fun c' hc' => (Except.ok.inj hc').symm⟩

/-- A blank text is none. -/
theorem Layers.userAgent_of_blank {raw : String} (h : Layers env doc? c)
    (hraw : env.entries.lookup "STEADFAST_HTTP_USER_AGENT" = some raw.toUTF8)
    (hblank : ∀ c ∈ raw.toList, Text.isBlank c = true) : c.transport.userAgent = none := by
  simp only [Layers, clientFields, List.forall_mem_cons] at h
  obtain ⟨-, -, -, -, -, -, -, -, -, -, -, -, -, hagent, -⟩ := h
  obtain ⟨-, hnone⟩ | ⟨⟨c, hc, hnot⟩, -⟩ := hagent.1 raw ⟨_, rfl, hraw⟩
  · exact hnone
  · rw [hblank c hc] at hnot
    cases hnot

/-- A field without a variable is as before. -/
theorem IsBase.connectTimeout_eq (hb : IsBase doc? b) (h : Layers env doc? c) :
    c.transport.connectTimeout = b.transport.connectTimeout := by
  have h := hb.overlaid_iff.mpr h
  simp only [clientFields, List.forall_mem_cons] at h
  obtain ⟨-, -, -, -, -, -, -, -, -, -, -, -, hconnect, -⟩ := h
  refine hconnect.2 ?_
  rintro raw ⟨name, hname, -⟩
  cases hname

end Resilience
