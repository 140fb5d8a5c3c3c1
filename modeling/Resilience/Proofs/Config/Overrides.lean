/-
# Overrides up to the first fault

Variables are laid over settings one after another, and the first one that cannot be read ends this.  This
file says what is in the settings then, field by field.

* `Environment.Halts`: where the overriding ends depends on the variables alone: before it nothing is
  wrong, and what comes next is, if anything does.
* `Halts.overlaid`, `Halts.unchanged`: **what is left of the settings.**  The fields before the end hold
  what their variables say, the others are as they were.
* `Halts.overlay_overlay`: doing it again changes nothing, since the end is at the same place and every
  field holds already what its variable says.
* `overlay_up_to_first_fault`: all this together, with what the values of variables mean.
* `overlay_of_stray_byte`: bytes that encode no text are no fault, though no value is written like this.
-/
import Resilience.Proofs.Config.Layering

namespace Resilience

variable {env : Environment} {b c : ClientConfig} {s bad : ClientField} {done left : List ClientField}
  {fault : VariableFault}

/-! ## 1. Where the overriding ends -/

/-- The variables stand in the table in the order in which they are read. -/
theorem names_overrides : overrides.map Override.name = clientFields.filterMap ClientField.overriddenBy := by
  rw [overrides_eq, List.map_filterMap]
  refine congrArg (List.filterMap · clientFields) (funext fun s => ?_)
  rw [ClientField.override?, Option.map_map]
  cases s.overriddenBy <;> rfl

/-- The variables of the fields in `done` can be read, as far as they are set, and that of the first one
in `left` cannot. -/
structure Environment.Halts (env : Environment) (done left : List ClientField) : Prop where
  split : clientFields = done ++ left
  readable : ∀ s ∈ done, s.Readable env
  halt : ∀ s ∈ left.head?, ∃ fault, s.Faulty env fault

/-- The overriding ends somewhere, or there is nothing left. -/
theorem Environment.exists_halts (env : Environment) : ∃ done left, env.Halts done left := by
  cases hfault : env.firstFault? with
  | none =>
    exact ⟨clientFields, [], (List.append_nil _).symm, firstFault?_eq_none_iff.mp hfault, nofun⟩
  | some fault =>
    obtain ⟨done, bad, after, hsplit, hbad, hdone⟩ := firstFault?_eq_some_iff.mp hfault
    refine ⟨done, bad :: after, hsplit, hdone, ?_⟩
    rintro s ⟨⟩
    exact ⟨fault, hbad⟩

/-- What can be read is laid over settings before what comes after it. -/
theorem Environment.overlayOf_append (h : ∀ s ∈ done, s.Readable env) :
    env.overlayOf (done ++ left) b = env.overlayOf left (env.overlayOf done b).1 := by
  induction done generalizing b with
  | nil => rfl
  | cons s done ih =>
    obtain ⟨hs, hdone⟩ := List.forall_mem_cons.mp h
    rw [List.cons_append, overlayOf_cons, overlayOf_cons]
    split
    · exact ih hdone
    · exact ih hdone
    · rename_i fault hfault
      have hfaulty := ClientField.fromVariable?_eq_error_iff.mp hfault
      exact absurd hfaulty (ClientField.readable_iff.mp hs fault)

/-- Nothing is overridden from a fault on. -/
theorem Environment.overlayOf_of_fault (h : ∀ s ∈ left.head?, ∃ fault, s.Faulty env fault) :
    (env.overlayOf left b).1 = b := by
  cases left with
  | nil => rfl
  | cons bad after =>
    obtain ⟨fault, hfault⟩ := h bad rfl
    rw [overlayOf_cons, ClientField.fromVariable?_eq_error_iff.mpr hfault]

/-! ## 2. What is left of the settings -/

namespace Environment.Halts

variable (h : env.Halts done left)

include h

/-- The settings are those after the overrides before the end. -/
theorem overlay_fst (c : ClientConfig) : (env.overlay c).1 = (env.overlayOf done c).1 := by
  rw [overlay_eq, h.split, overlayOf_append h.readable, overlayOf_of_fault h.halt]

theorem independent : (done ++ left).Pairwise ClientField.Independent :=
  h.split ▸ clientFields_independent

/-- **Each field before the end holds what its variable says**, if that is set. -/
theorem overlaid (c : ClientConfig) :
    ∀ s ∈ done, s.Overlaid env (s.get c) (s.get (env.overlay c).1) := by
  rw [h.overlay_fst]
  refine overlaid_overlayOf (List.pairwise_append.mp h.independent).1 ?_ ?_
  · intro s hs
    exact get_write s (h.split ▸ List.mem_append_left left hs)
  · rw [overlayOf_snd, List.findSome?_eq_none_iff]
    exact fun s hs => ClientField.fault?_eq_none_iff.mpr (h.readable s hs)

/-- **The other fields are as they were.** -/
theorem unchanged (c : ClientConfig) : ∀ s ∈ left, s.get (env.overlay c).1 = s.get c := by
  intro s hs
  rw [h.overlay_fst]
  refine get_overlayOf fun t ht => ?_
  exact And.symm ((List.pairwise_append.mp h.independent).2.2 t ht s hs)

/-- **Laying the variables over the settings once more changes nothing.** -/
theorem overlay_overlay (c : ClientConfig) : env.overlay (env.overlay c).1 = env.overlay c := by
  have hsettings : (env.overlay (env.overlay c).1).1 = (env.overlay c).1 := by
    refine eq_of_clientFields fun s hs => ?_
    rw [h.split] at hs
    -- both times the end is the same: before it a variable gives the same value, after it nothing is done
    rcases List.mem_append.mp hs with hs | hs
    · exact (h.overlaid (env.overlay c).1 s hs).unique (h.overlaid c s hs).again
    · exact h.unchanged _ s hs
  exact Prod.ext hsettings (overlay_snd.trans overlay_snd.symm)

/-- A field whose variable is set to no text is as it was. -/
theorem get_of_not_setTo (c : ClientConfig) :
    ∀ s ∈ clientFields, (∀ raw, ¬ s.SetTo env raw) → s.get (env.overlay c).1 = s.get c := by
  intro s hs hunset
  rw [h.split] at hs
  rcases List.mem_append.mp hs with hs | hs
  · exact (h.overlaid c s hs).2 hunset
  · exact h.unchanged c s hs

theorem connectTimeout_eq (c : ClientConfig) :
    (env.overlay c).1.transport.connectTimeout = c.transport.connectTimeout := by
  have hall := h.get_of_not_setTo c
  simp only [clientFields, List.forall_mem_cons] at hall
  obtain ⟨-, -, -, -, -, -, -, -, -, -, -, -, hconnect, -⟩ := hall
  refine hconnect ?_
  rintro raw ⟨name, hname, -⟩
  cases hname

/-- If every variable can be read, nothing is left. -/
theorem left_eq_nil (hread : env.Readable) : left = [] := by
  cases left with
  | nil => rfl
  | cons bad after =>
    obtain ⟨fault, hfault⟩ := h.halt bad rfl
    have hmem : bad ∈ clientFields := h.split ▸ List.mem_append_right done List.mem_cons_self
    exact absurd hfault (ClientField.readable_iff.mp (hread bad hmem) fault)

/-- Otherwise what is left begins with the first fault. -/
theorem exists_bad (hread : ¬ env.Readable) :
    ∃ bad after fault, left = bad :: after ∧ bad.Faulty env fault := by
  cases left with
  | nil =>
    have hsplit : clientFields = done := h.split.trans (List.append_nil done)
    exact absurd (fun s hs => h.readable s (hsplit ▸ hs)) hread
  | cons bad after =>
    obtain ⟨fault, hfault⟩ := h.halt bad rfl
    exact ⟨bad, after, fault, rfl, hfault⟩

end Environment.Halts

/-- The first fault is the one that is told. -/
theorem Environment.Halts.overlay_snd_eq {after : List ClientField} (h : env.Halts done (bad :: after))
    (hbad : bad.Faulty env fault) : (env.overlay c).2 = some fault := by
  rw [overlay_snd, firstFault?_eq_some_iff]
  exact ⟨done, bad, after, h.split, hbad, h.readable⟩

/-! ## 3. The whole -/

/-- **The variables laid over settings.**  The variables are those of the table, in its order.

* If every variable that is set to a text can be read, there is no fault, and each field holds what its
  variable is set to, or what it held before.
* Otherwise the fault names the first variable that cannot be read.  The fields before that one hold what
  their variables are set to, or what they held before; the others are as they were.
* A variable that is set to bytes that encode no text counts as not set: its field is as it was.
* To do it again changes nothing and gives the same fault.
* The time for connecting is as it was in any case.
* Spans are given in milliseconds, numbers in digits, truth values by their spellings and doubles in any of
  their forms, all between blanks.  A text is taken as it stands, or is none if it is blank. -/
theorem overlay_up_to_first_fault (env : Environment) (c : ClientConfig) :
    overrides.map Override.name = clientFields.filterMap ClientField.overriddenBy ∧
    (env.Readable → (env.overlay c).2 = none ∧
      ∀ s ∈ clientFields, s.Overlaid env (s.get c) (s.get (env.overlay c).1)) ∧
    (¬ env.Readable → ∃ done bad after fault, clientFields = done ++ bad :: after ∧
      (∀ s ∈ done, s.Readable env) ∧ bad.Faulty env fault ∧
      (env.overlay c).2 = some fault ∧
      (∀ s ∈ done, s.Overlaid env (s.get c) (s.get (env.overlay c).1)) ∧
      ∀ s ∈ bad :: after, s.get (env.overlay c).1 = s.get c) ∧
    (∀ s ∈ clientFields, s.Garbled env → s.get (env.overlay c).1 = s.get c) ∧
    env.overlay (env.overlay c).1 = env.overlay c ∧
    (env.overlay c).1.transport.connectTimeout = c.transport.connectTimeout ∧
    (∀ raw agent, ValueKind.optionalText.parse raw = .ok agent ↔
      (∀ x ∈ raw.toList, Text.isBlank x = true) ∧ agent = none ∨
        (∃ x ∈ raw.toList, Text.isBlank x = false) ∧ agent = some raw) ∧
    (∀ raw span, ValueKind.millis.parse raw = .ok span ↔
      ∃ n : UInt64, IsNumeral raw n.toNat ∧ span.nanos = n.toNat * 1000000) ∧
    (∀ raw n, ValueKind.natural32.parse raw = .ok n ↔ IsNumeral raw n.toNat) ∧
    (∀ raw n, ValueKind.natural16.parse raw = .ok n ↔ IsNumeral raw n.toNat) ∧
    (∀ raw b, ValueKind.truth.parse raw = .ok b ↔ IsTruthValue raw b) ∧
    ∀ raw x, ValueKind.double.parse raw = .ok x ↔ IsDouble raw x := by
  obtain ⟨done, left, h⟩ := env.exists_halts
  refine ⟨names_overrides, ?_, ?_, ?_, h.overlay_overlay c, h.connectTimeout_eq c,
    fun raw agent => ValueKind.optionalText.parse_eq_ok_iff,
    fun raw span => ValueKind.millis.parse_eq_ok_iff,
    fun raw n => ValueKind.natural32.parse_eq_ok_iff,
    fun raw n => ValueKind.natural16.parse_eq_ok_iff,
    fun raw b => ValueKind.truth.parse_eq_ok_iff,
    fun raw x => ValueKind.double.parse_eq_ok_iff⟩
  · intro hread
    obtain rfl := h.left_eq_nil hread
    rw [Environment.overlay_snd, Environment.firstFault?_eq_none_iff]
    refine ⟨hread, fun s hs => h.overlaid c s ?_⟩
    rwa [h.split, List.append_nil] at hs
  · intro hread
    obtain ⟨bad, after, fault, rfl, hbad⟩ := h.exists_bad hread
    exact ⟨done, bad, after, fault, h.split, h.readable, hbad, h.overlay_snd_eq hbad, h.overlaid c,
      h.unchanged c⟩
  · intro s hs hgarbled
    exact h.get_of_not_setTo c s hs fun raw => hgarbled.not_setTo

/-- Variables of which that of the eleventh field is too large, one before it is set to bytes that encode no
text, and two come after it. -/
def largeThreshold : Environment :=
  ⟨[("STEADFAST_HTTP_USER_AGENT", "agent".toUTF8), ("STEADFAST_HTTP_TIMEOUT_MS", "9000".toUTF8),
    ("STEADFAST_SERVER_ERROR_THRESHOLD", "70000".toUTF8),
    ("STEADFAST_RETRY_RANDOM_FACTOR", "-.25".toUTF8), ("STEADFAST_RETRY_MULTIPLIER", "15E-1".toUTF8),
    ("STEADFAST_RETRY_MAX_ATTEMPTS", ⟨#[0xff]⟩), ("STEADFAST_CB_RESET_TIMEOUT_MS", "1500".toUTF8),
    ("STEADFAST_CB_FAILURE_THRESHOLD", " +7\u2003".toUTF8), ("STEADFAST_CB_ENABLED", "OFF".toUTF8)]⟩

/-- The settings that the variables before the eleventh field make of the default ones. -/
def beforeThreshold : ClientConfig :=
  { breaker := { enabled := false, failureThreshold := 7, resetTimeout := .ofMillis 1500 },
    retry := { multiplier := 1.5, randomFactor := -0.25 } }

/-- The eleventh field has the fault: it and those after it are as they were. -/
theorem overlay_up_to_eleventh_field :
    ¬ largeThreshold.Readable ∧
    largeThreshold.overlay {} = (beforeThreshold, some ⟨"STEADFAST_SERVER_ERROR_THRESHOLD",
      "number too large to fit in target type (got \"70000\")"⟩) ∧
    ∃ done bad after, clientFields = done ++ bad :: after ∧
      bad.overriddenBy = some "STEADFAST_SERVER_ERROR_THRESHOLD" ∧
      (∀ s ∈ done, s.Overlaid largeThreshold (s.get {}) (s.get beforeThreshold)) ∧
      ∀ s ∈ bad :: after, s.get beforeThreshold = s.get {} := by
  have hoverlay : largeThreshold.overlay {} =
      (beforeThreshold, some ⟨"STEADFAST_SERVER_ERROR_THRESHOLD",
        "number too large to fit in target type (got \"70000\")"⟩) := by
    rfl
  have hread : ¬ largeThreshold.Readable := by
    rw [← Environment.firstFault?_eq_none_iff, ← Environment.overlay_snd (b := {}), hoverlay]
    exact Option.some_ne_none _
  obtain ⟨done, bad, after, fault, hsplit, -, ⟨raw, hname, -⟩, hfault, hdone, hleft⟩ :=
    (overlay_up_to_first_fault largeThreshold {}).2.2.1 hread
  rw [hoverlay] at hfault hdone hleft
  obtain rfl := Option.some.inj hfault
  exact ⟨hread, hoverlay, done, bad, after, hsplit, hname, hdone, hleft⟩

/-- A variable that is set, though not to a value, is no fault if it is set to no text. -/
theorem overlay_of_stray_byte :
    (∃ s ∈ clientFields, s.overriddenBy = some "STEADFAST_RETRY_MAX_ATTEMPTS" ∧
      s.Garbled strayByte) ∧
    strayByte.overlay {} = ({}, none) :=
  ⟨strayByte_garbled, by rfl⟩

end Resilience
