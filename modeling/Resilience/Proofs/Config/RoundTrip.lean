/-
# Settings written and read again

Settings are written as a document and read from one.  This file says what is left of them on the way, and
what becomes of them if members of the document are left out.  A document is a tree here, not yet a text: it is
assumed that the language in which it is written down keeps the tree, its doubles bit by bit included.

* `Duration.inMillis`: what a span is in whole milliseconds, capped to 64 bits.  This is all that is lost:
  `ClientConfig.inMillis` are the settings with their spans so.
* `Document.without`: a document without some of its members, at any depth; `ClientConfig.without` are the
  settings with the defaults in their places.
* `BreakerConfig.ofDocument?_without` and its siblings: **what is left out has its default, and all else is
  read as it was written.**  The whole is assembled from its three parts.
* `settings_round_trip`: written and read again, with what follows from it.
* `valid_after_round_trip`: valid settings stay valid, except that a time of less than a millisecond is
  none.
-/
import Resilience.Proofs.Config.Fields
import Resilience.Proofs.Config.Validity

namespace Resilience

/-! ## 1. Spans in milliseconds -/

namespace Duration

variable {d e : Duration}

/-- The span in whole milliseconds, at most the largest 64-bit number of them. -/
def inMillis (d : Duration) : Duration := .ofMillis d.millis64

theorem nanos_inMillis (d : Duration) :
    d.inMillis.nanos = min (d.nanos / 1000000) 18446744073709551615 * 1000000 := by
  rw [inMillis, nanos_ofMillis, toNat_millis64, wholeMillis]

/-- A span that is given in milliseconds stays as it is. -/
@[simp] theorem inMillis_ofMillis (n : UInt64) : (ofMillis n).inMillis = ofMillis n := by
  rw [inMillis, millis64_ofMillis]

@[simp] theorem inMillis_inMillis (d : Duration) : d.inMillis.inMillis = d.inMillis :=
  inMillis_ofMillis d.millis64

/-- **Exactly the spans of so many milliseconds stay as they are.** -/
theorem inMillis_eq_self_iff :
    d.inMillis = d ↔ 1000000 ∣ d.nanos ∧ d.nanos ≤ 18446744073709551615 * 1000000 := by
  rw [Duration.ext_iff, nanos_inMillis]
  constructor
  · intro h
    omega
  · rintro ⟨h, hle⟩
    omega

/-- **A larger span does not become smaller than a smaller one.** -/
theorem inMillis_le_inMillis (h : d ≤ e) : d.inMillis ≤ e.inMillis := by
  rw [le_iff] at h ⊢
  rw [nanos_inMillis, nanos_inMillis]
  omega

/-- Nothing is left exactly of less than a millisecond. -/
theorem inMillis_eq_zero_iff : d.inMillis = zero ↔ d.nanos < 1000000 := by
  rw [Duration.ext_iff, nanos_inMillis, nanos_zero]
  omega

/-- A span is read as it was written, in milliseconds. -/
theorem ofDocument?_toDocument (d : Duration) : ofDocument? d.toDocument = some d.inMillis := by
  have hle : d.millis64.toNat ≤ 18446744073709551615 := Nat.le_of_lt_succ d.millis64.toNat_lt
  simp [ofDocument?, toDocument, Document.natural?, hle, inMillis]

/-- Every number of 64 bits is a span, which is written as the same number. -/
theorem toDocument_ofDocument? (n : UInt64) :
    (ofDocument? (.integer n.toNat)).map toDocument = some (.integer n.toNat) := by
  have hle : n.toNat ≤ 18446744073709551615 := Nat.le_of_lt_succ n.toNat_lt
  simp [ofDocument?, toDocument, Document.natural?, hle]

end Duration

/-! ## 2. Numbers -/

theorem Document.natural32?_integer (n : UInt32) : natural32? (.integer n.toNat) = some n := by
  have hle : n.toNat ≤ 4294967295 := Nat.le_of_lt_succ n.toNat_lt
  simp [natural32?, natural?, hle]

theorem Document.natural16?_integer (n : UInt16) : natural16? (.integer n.toNat) = some n := by
  have hle : n.toNat ≤ 65535 := Nat.le_of_lt_succ n.toNat_lt
  simp [natural16?, natural?, hle]

/-! ## 3. Leaving out members -/

namespace Document

mutual

/-- The document without the members at the places in `omitted`.  The place of a member is its name after
those of the tables that it is in, the outermost first. -/
def without (omitted : List String → Bool) : Document → Document
  | .table members => .table (membersWithout omitted members)
  | d => d

/-- The members without those at the places in `omitted`. -/
def membersWithout (omitted : List String → Bool) :
    List (String × Document) → List (String × Document)
  | [] => []
  | (name, d) :: rest =>
    if omitted [name] then membersWithout omitted rest
    else (name, d.without fun place => omitted (name :: place)) :: membersWithout omitted rest

end

variable {omitted : List String → Bool} {members : List (String × Document)} {names : List String}
  {name : String} {d : Document}

/-- What is found under a name is what was there, without the members that are left out of it. -/
theorem lookup_membersWithout (omitted : List String → Bool) (members : List (String × Document))
    (name : String) : (membersWithout omitted members).lookup name =
      if omitted [name] then none
      else (members.lookup name).map fun d => d.without fun place => omitted (name :: place) := by
  induction members with
  | nil => simp [membersWithout]
  | cons m rest ih =>
    obtain ⟨key, d⟩ := m
    rw [membersWithout, List.lookup_cons]
    -- an equal name may come again after a member that is left out, and is left out there as well
    by_cases hkey : name = key
    · subst hkey
      by_cases hout : omitted [name] = true
      · simp [hout, ih]
      · simp [hout]
    · have hne : (name == key) = false := beq_eq_false_iff_ne.mpr hkey
      by_cases hout : omitted [key] = true
      · simp [hout, hne, ih]
      · simp [hout, hne, ih, List.lookup_cons]

/-- No name is there that was not there before. -/
theorem sublist_membersWithout (omitted : List String → Bool) (members : List (String × Document)) :
    ((membersWithout omitted members).map Prod.fst).Sublist (members.map Prod.fst) := by
  induction members with
  | nil => simp [membersWithout]
  | cons m rest ih =>
    obtain ⟨key, d⟩ := m
    rw [membersWithout]
    split
    · exact ih.cons key
    · exact ih.cons_cons key

/-- A table with a member for each field is a record, whatever is left out. -/
theorem isRecord_without (h : members.map Prod.fst = names) (hn : names.Nodup) :
    ((table members).without omitted).IsRecord names := by
  intro name hname
  exact Nat.le_trans ((sublist_membersWithout omitted members).count_le name)
    (List.nodup_iff_count_le_one.mp (h ▸ hn) name)

/-- **A member is read as it was written, or has its default if it is left out.** -/
theorem readField_without {α : Type} {read : Document → Option α} {default value : α}
    (hmember : members.lookup name = some d)
    (hread : read (d.without fun place => omitted (name :: place)) = some value) :
    readField read default (((table members).without omitted).given? names name) =
      some (if omitted [name] then default else value) := by
  rw [without, given?, lookup_membersWithout, hmember]
  cases omitted [name] with
  | true => rfl
  | false => exact hread

mutual

/-- A document without nothing is the document. -/
theorem without_nothing : ∀ d : Document, (d.without fun _ => false) = d
  | .table members => by rw [without, membersWithout_nothing]
  | .null | .truth _ | .integer _ | .double _ | .text _ | .sequence _ | .unreadable => by
    rw [without]
    rintro members ⟨⟩

theorem membersWithout_nothing :
    ∀ members : List (String × Document), membersWithout (fun _ => false) members = members
  | [] => by rw [membersWithout]
  | (name, d) :: rest => by
    rw [membersWithout, without_nothing d, membersWithout_nothing rest]
    rfl

end

end Document

/-! ## 4. The parts -/

open Document

/-- The settings with spans in milliseconds. -/
def BreakerConfig.inMillis (c : BreakerConfig) : BreakerConfig :=
  { c with resetTimeout := c.resetTimeout.inMillis }

/-- The settings with spans in milliseconds. -/
def RetryConfig.inMillis (c : RetryConfig) : RetryConfig :=
  { c with initialInterval := c.initialInterval.inMillis, maxInterval := c.maxInterval.inMillis }

/-- The settings with spans in milliseconds. -/
def TransportConfig.inMillis (c : TransportConfig) : TransportConfig :=
  { c with timeout := c.timeout.inMillis, connectTimeout := c.connectTimeout.inMillis }

/-- The settings with the defaults for the fields that are left out. -/
def BreakerConfig.without (omitted : String → Bool) (c : BreakerConfig) : BreakerConfig :=
  let default : BreakerConfig := {}
  { enabled := if omitted "enabled" then default.enabled else c.enabled
    failureThreshold :=
      if omitted "failure_threshold" then default.failureThreshold else c.failureThreshold
    resetTimeout := if omitted "reset_timeout" then default.resetTimeout else c.resetTimeout
    successesNeeded :=
      if omitted "half_open_success_needed" then default.successesNeeded else c.successesNeeded }

/-- The settings with the defaults for the fields that are left out. -/
def RetryConfig.without (omitted : String → Bool) (c : RetryConfig) : RetryConfig :=
  let default : RetryConfig := {}
  { enabled := if omitted "enabled" then default.enabled else c.enabled
    maxAttempts := if omitted "max_attempts" then default.maxAttempts else c.maxAttempts
    initialInterval :=
      if omitted "initial_interval" then default.initialInterval else c.initialInterval
    maxInterval := if omitted "max_interval" then default.maxInterval else c.maxInterval
    multiplier := if omitted "multiplier" then default.multiplier else c.multiplier
    randomFactor := if omitted "random_factor" then default.randomFactor else c.randomFactor }

/-- The settings with the defaults for the fields that are left out. -/
def TransportConfig.without (omitted : String → Bool) (c : TransportConfig) : TransportConfig :=
  let default : TransportConfig := {}
  { timeout := if omitted "timeout" then default.timeout else c.timeout
    connectTimeout := if omitted "connect_timeout" then default.connectTimeout else c.connectTimeout
    userAgent := if omitted "user_agent" then default.userAgent else c.userAgent }

variable (omitted : List String → Bool)

/-- **The settings of a breaker are read as they were written**, except for what is left out. -/
theorem BreakerConfig.ofDocument?_without (c : BreakerConfig) :
    ofDocument? (c.toDocument.without omitted) =
      some (c.inMillis.without fun name => omitted [name]) := by
  rw [ofDocument?_eq_some_iff]
  refine ⟨isRecord_without rfl (by decide), ?_, ?_, ?_, ?_⟩
  · exact readField_without rfl rfl
  · exact readField_without rfl (natural32?_integer _)
  · exact readField_without rfl (Duration.ofDocument?_toDocument _)
  · exact readField_without rfl (natural32?_integer _)

/-- **The settings of retries are read as they were written**, except for what is left out. -/
theorem RetryConfig.ofDocument?_without (c : RetryConfig) :
    ofDocument? (c.toDocument.without omitted) =
      some (c.inMillis.without fun name => omitted [name]) := by
  rw [ofDocument?_eq_some_iff]
  refine ⟨isRecord_without rfl (by decide), ?_, ?_, ?_, ?_, ?_, ?_⟩
  · exact readField_without rfl rfl
  · exact readField_without rfl (natural32?_integer _)
  · exact readField_without rfl (Duration.ofDocument?_toDocument _)
  · exact readField_without rfl (Duration.ofDocument?_toDocument _)
  · exact readField_without rfl rfl
  · exact readField_without rfl rfl

/-- **The settings of the network transport are read as they were written**, except for what is left
out. -/
theorem TransportConfig.ofDocument?_without (c : TransportConfig) :
    ofDocument? (c.toDocument.without omitted) =
      some (c.inMillis.without fun name => omitted [name]) := by
  rw [ofDocument?_eq_some_iff]
  refine ⟨isRecord_without rfl (by decide), ?_, ?_, ?_⟩
  · exact readField_without rfl (Duration.ofDocument?_toDocument _)
  · exact readField_without rfl (Duration.ofDocument?_toDocument _)
  · have hagent : ∀ agent : Option String, optional? text?
        (((agent.map Document.text).getD .null).without fun place => omitted ("user_agent" :: place)) =
          some agent := by
      rintro (_ | agent) <;> rfl
    exact readField_without rfl (hagent c.userAgent)

/-! ## 5. The whole -/

namespace ClientConfig

/-- The settings with spans in milliseconds. -/
def inMillis (c : ClientConfig) : ClientConfig :=
  { c with breaker := c.breaker.inMillis, retry := c.retry.inMillis, transport := c.transport.inMillis }

/-- The settings with the defaults for what is left out: a part, or a field of a part. -/
def without (omitted : List String → Bool) (c : ClientConfig) : ClientConfig :=
  let default : ClientConfig := {}
  { breaker :=
      if omitted ["circuit_breaker"] then default.breaker
      else c.breaker.without fun name => omitted ["circuit_breaker", name]
    retry :=
      if omitted ["retry"] then default.retry
      else c.retry.without fun name => omitted ["retry", name]
    serverErrorThreshold :=
      if omitted ["server_error_threshold"] then default.serverErrorThreshold
      else c.serverErrorThreshold
    transport :=
      if omitted ["transport"] then default.transport
      else c.transport.without fun name => omitted ["transport", name] }

/-- The spans among the settings. -/
def spans (c : ClientConfig) : List Duration :=
  [c.breaker.resetTimeout, c.retry.initialInterval, c.retry.maxInterval, c.transport.timeout,
    c.transport.connectTimeout]

/-- **The settings are read as they were written**, with the defaults for what is left out. -/
theorem ofDocument?_without (c : ClientConfig) :
    ofDocument? (c.toDocument.without omitted) = some (c.inMillis.without omitted) := by
  rw [ofDocument?_eq_some_iff]
  refine ⟨isRecord_without rfl (by decide), ?_, ?_, ?_, ?_⟩
  · exact readField_without rfl (c.breaker.ofDocument?_without _)
  · exact readField_without rfl (c.retry.ofDocument?_without _)
  · exact readField_without rfl (natural16?_integer _)
  · exact readField_without rfl (c.transport.ofDocument?_without _)

/-- **Settings written and read again have their spans in milliseconds.** -/
theorem ofDocument?_toDocument (c : ClientConfig) : ofDocument? c.toDocument = some c.inMillis := by
  have hnothing := ofDocument?_without (fun _ => false) c
  rwa [Document.without_nothing] at hnothing

theorem inMillis_inMillis (c : ClientConfig) : c.inMillis.inMillis = c.inMillis := by
  simp [inMillis, BreakerConfig.inMillis, RetryConfig.inMillis, TransportConfig.inMillis]

/-- Settings stay as they are exactly if their spans do. -/
theorem inMillis_eq_self_iff {c : ClientConfig} : c.inMillis = c ↔ ∀ d ∈ c.spans, d.inMillis = d := by
  obtain ⟨⟨_, _, _, _⟩, ⟨_, _, _, _, _, _⟩, _, ⟨_, _, _⟩⟩ := c
  simp [inMillis, BreakerConfig.inMillis, RetryConfig.inMillis, TransportConfig.inMillis, spans,
    and_assoc]

end ClientConfig

/-- **Settings written and read again.**  Take any settings.  The document between writing and reading is
assumed to be kept as it is, so that doubles come back as they were.

* They come back with their spans in whole milliseconds, at most the largest 64-bit number of them, and all
  else as it was.
* A second time changes nothing more.  Settings stay as they are exactly if their spans are whole
  milliseconds within that bound.
* A larger span does not become smaller than a smaller one, and every 64-bit number that is read as a span is
  written again.
* If members of the document are left out, whole parts or fields of parts, those fields have their defaults,
  and all else is as before. -/
theorem settings_round_trip (c : ClientConfig) :
    ClientConfig.ofDocument? c.toDocument = some c.inMillis ∧
    (∀ d : Duration, d.inMillis.nanos = min (d.nanos / 1000000) 18446744073709551615 * 1000000) ∧
    ClientConfig.ofDocument? c.inMillis.toDocument = some c.inMillis ∧
    (ClientConfig.ofDocument? c.toDocument = some c ↔
      ∀ d ∈ c.spans, 1000000 ∣ d.nanos ∧ d.nanos ≤ 18446744073709551615 * 1000000) ∧
    (∀ d e : Duration, d ≤ e → d.inMillis ≤ e.inMillis) ∧
    (∀ n : UInt64, (Duration.ofDocument? (.integer n.toNat)).map Duration.toDocument =
      some (.integer n.toNat)) ∧
    ∀ omitted : List String → Bool,
      ClientConfig.ofDocument? (c.toDocument.without omitted) = some (c.inMillis.without omitted) := by
  refine ⟨c.ofDocument?_toDocument, Duration.nanos_inMillis, ?_, ?_,
    fun d e => Duration.inMillis_le_inMillis, Duration.toDocument_ofDocument?,
    fun omitted => c.ofDocument?_without omitted⟩
  · rw [ClientConfig.ofDocument?_toDocument, ClientConfig.inMillis_inMillis]
  · rw [ClientConfig.ofDocument?_toDocument, Option.some.injEq, ClientConfig.inMillis_eq_self_iff]
    exact forall₂_congr fun d _ => Duration.inMillis_eq_self_iff

/-! ## 6. Validity -/

/-- The settings of a breaker are checked for their thresholds alone. -/
theorem BreakerConfig.validate_inMillis (c : BreakerConfig) : c.inMillis.validate = c.validate := rfl

/-- The first delay does not become longer than the longest. -/
theorem RetryConfig.validate_inMillis {c : RetryConfig} (h : c.validate = .ok ()) :
    c.inMillis.validate = .ok () := by
  obtain ⟨hattempts, hmultiplier, hfactor, hintervals⟩ := validate_eq_ok_iff.mp h
  exact validate_eq_ok_iff.mpr
    ⟨hattempts, hmultiplier, hfactor, Duration.inMillis_le_inMillis hintervals⟩

/-- **Valid settings, written and read again, are valid if a request has at least a millisecond.**  A
shorter time comes back as none, which is refused. -/
theorem valid_after_round_trip {c : ClientConfig} (h : c.validate = .ok ()) :
    ∃ c', ClientConfig.ofDocument? c.toDocument = some c' ∧
      (Duration.ofMillis 1 ≤ c.transport.timeout → c'.validate = .ok ()) ∧
      (c.transport.timeout < Duration.ofMillis 1 → c'.validate = .error .transportTimeout) := by
  obtain ⟨hbreaker, hretry, hthreshold, -⟩ := ClientConfig.validate_eq_ok_iff.mp h
  -- all other checks come out as before, so the time of a request decides
  have hchecked : c.inMillis.validate =
      demand (c.transport.timeout.inMillis ≠ .zero) .transportTimeout :=
    ClientConfig.validate_of_parts (c.breaker.validate_inMillis.trans hbreaker)
      (RetryConfig.validate_inMillis hretry) hthreshold
  refine ⟨c.inMillis, c.ofDocument?_toDocument, fun hle => ?_, fun hlt => ?_⟩
  · rw [hchecked, demand, if_pos]
    rw [ne_eq, Duration.inMillis_eq_zero_iff]
    exact Nat.not_lt.mpr hle
  · rw [hchecked, demand, if_neg]
    rw [ne_eq, not_not, Duration.inMillis_eq_zero_iff]
    exact hlt

/-- Settings with spans that do not come back as they were: a time of less than two milliseconds, and
delays of more milliseconds than there are 64-bit numbers. -/
def unevenSettings : ClientConfig where
  retry :=
    { initialInterval := ⟨18446744073709551616 * 1000000, by decide⟩
      maxInterval := ⟨18446744073709551616 * 1000000000 - 1, by decide⟩ }
  transport := { timeout := ⟨1999999, by decide⟩ }

/-- They are valid before and after. -/
theorem uneven_settings_valid_after_round_trip :
    unevenSettings.validate = .ok () ∧ Duration.ofMillis 1 ≤ unevenSettings.transport.timeout ∧
      ∃ c', ClientConfig.ofDocument? unevenSettings.toDocument = some c' ∧ c'.validate = .ok () := by
  have hvalid : unevenSettings.validate = .ok () := by rfl
  have htime : Duration.ofMillis 1 ≤ unevenSettings.transport.timeout := by decide
  obtain ⟨c', hread, hlong, -⟩ := valid_after_round_trip hvalid
  exact ⟨hvalid, htime, c', hread, hlong htime⟩

/-- Settings that give a request half a millisecond. -/
def halfMillisecond : ClientConfig where
  transport := { timeout := ⟨500000, by decide⟩ }

/-- They are valid, and refused after they have been written and read again. -/
theorem half_millisecond_refused_after_round_trip :
    halfMillisecond.validate = .ok () ∧
      ∃ c', ClientConfig.ofDocument? halfMillisecond.toDocument = some c' ∧
        c'.validate = .error .transportTimeout :=
  ⟨by rfl, _, ClientConfig.ofDocument?_toDocument _, by rfl⟩

end Resilience
