/-
# The validators agree

Settings are checked in three places: as a whole (`ClientConfig.validate`), when a client is made from them
(`Client.build`), and when a layer is made from a part of them (`Layer.build`).  A layer is checked in an
order of its own and never looks at the time of a request.  This file proves that the three accept the same
settings all the same.

* `Layer.build_eq_error_iff_of_timeout`: a layer finds the fault that the whole has once a request has
  time, except that it looks at the least failing status first.
* `Client.build_eq_ok_iff`, `Client.build_eq_error_iff`: a client is made exactly from valid settings, and
  the fault is otherwise that of the settings.
* `ClientConfig.Loaded`: what the three ways of loading come to; `ClientConfig.Loaded.valid`: it is valid.
* `validators_agree`: **clients, layers and the check of the whole agree, whatever the switches say.**
-/
import Resilience.Proofs.Config.Loading

namespace Resilience

variable {index : Nat} {c : ClientConfig} {l : Layer} {f : ConfigFault}

/-! ## 1. Layers -/

/-- The settings with another time for a request. -/
def ClientConfig.withTimeout (c : ClientConfig) (t : Duration) : ClientConfig :=
  { c with transport.timeout := t }

/-- The settings with breaker and retries switched on or off. -/
def ClientConfig.switched (c : ClientConfig) (breakerOn retryOn : Bool) : ClientConfig :=
  { c with breaker.enabled := breakerOn, retry.enabled := retryOn }

/-- A layer has what the settings say: its switches, its breaker's settings, and what its delays depend
on. -/
structure Layer.Carries (l : Layer) (c : ClientConfig) : Prop where
  policy : l.policy = ⟨c.breaker.enabled, c.retry.enabled, c.serverErrorThreshold⟩
  breaker : l.breaker = c.breaker
  strategy : l.strategy =
    { maxAttempts := c.retry.maxAttempts
      initialInterval := c.retry.initialInterval
      maxInterval := c.retry.maxInterval
      multiplier := c.retry.multiplier
      randomFactor := c.retry.randomFactor }

namespace Layer

/-- A layer that is made has what its settings say. -/
theorem carries_of_build (h : Layer.build index true c.layer = .ok l) : l.Carries c := by
  obtain ⟨-, -, -, -, rfl⟩ := build_eq_ok_iff.mp h
  exact ⟨rfl, rfl, rfl⟩

/-- A layer can be made when its parts are valid. -/
theorem exists_build_iff : (∃ l, Layer.build index true c.layer = .ok l) ↔
    isStatus c.serverErrorThreshold ∧ c.breaker.validate = .ok () ∧ c.retry.validate = .ok () := by
  constructor
  · rintro ⟨l, h⟩
    obtain ⟨-, hstatus, hbreaker, hretry, -⟩ := build_eq_ok_iff.mp h
    exact ⟨hstatus, hbreaker, hretry⟩
  · rintro ⟨hstatus, hbreaker, hretry⟩
    exact ⟨_, build_eq_ok_iff.mpr ⟨rfl, hstatus, hbreaker, hretry, rfl⟩⟩

/-- From valid settings a layer can be made. -/
theorem exists_build_of_valid (index : Nat) (h : c.validate = .ok ()) :
    ∃ l, Layer.build index true c.layer = .ok l := by
  obtain ⟨hbreaker, hretry, hstatus, -⟩ := ClientConfig.validate_eq_ok_iff.mp h
  exact exists_build_iff.mpr ⟨hstatus, hbreaker, hretry⟩

variable {t : Duration}

/-- **A layer can be made exactly when the whole is valid once a request has time.** -/
theorem exists_build_iff_of_timeout (ht : t ≠ .zero) :
    (∃ l, Layer.build index true c.layer = .ok l) ↔ (c.withTimeout t).validate = .ok () := by
  rw [exists_build_iff, ClientConfig.validate_eq_ok_iff]
  constructor
  · rintro ⟨hstatus, hbreaker, hretry⟩
    exact ⟨hbreaker, hretry, hstatus, ht⟩
  · rintro ⟨hbreaker, hretry, hstatus, -⟩
    exact ⟨hstatus, hbreaker, hretry⟩

/-- **A layer looks at the least failing status first, and else finds the fault of the whole.** -/
theorem build_eq_error_iff_of_timeout (ht : t ≠ .zero) :
    Layer.build index true c.layer = .error f ↔
      ¬ isStatus c.serverErrorThreshold ∧ f = .serverErrorThreshold c.serverErrorThreshold ∨
        isStatus c.serverErrorThreshold ∧ (c.withTimeout t).validate = .error f := by
  rw [build_eq_error_iff]
  simp only [not_true_eq_false, false_and, true_and, false_or]
  refine or_congr_right (and_congr_right fun hstatus => ?_)
  exact (ClientConfig.validate_eq_error_iff_of_status (c := c.withTimeout t) hstatus ht).symm

end Layer

/-! ## 2. Clients -/

namespace Client

/-- **A client is made exactly from valid settings**; it keeps them, and its layer is made from them. -/
theorem build_eq_ok_iff {client : Client} : Client.build index c = .ok client ↔
    c.validate = .ok () ∧ client.config = c ∧ Layer.build index true c.layer = .ok client.layer := by
  obtain ⟨layer, config⟩ := client
  rw [build]
  cases c.validate with
  | error f => simp [throw, throwThe, MonadExceptOf.throw]
  | ok u =>
    cases Layer.build index true c.layer with
    | error f => simp [throw, throwThe, MonadExceptOf.throw]
    | ok l => simp [pure, Except.pure, and_comm, eq_comm]

/-- **The fault of a client is that of its settings.**  Once they are valid, its layer cannot fail. -/
theorem build_eq_error_iff {e : HttpError} : Client.build index c = .error e ↔
    ∃ f, c.validate = .error f ∧ e = .config f := by
  cases h : c.validate with
  | error f =>
    rw [build, h]
    simp [throw, throwThe, MonadExceptOf.throw, eq_comm]
  | ok u =>
    obtain ⟨l, hl⟩ := Layer.exists_build_of_valid index h
    have hmade : Client.build index c = .ok ⟨l, c⟩ := build_eq_ok_iff.mpr ⟨h, rfl, hl⟩
    simp [hmade]

/-- A client can be made exactly from valid settings. -/
theorem exists_build_iff : (∃ client, Client.build index c = .ok client) ↔ c.validate = .ok () := by
  constructor
  · rintro ⟨client, h⟩
    exact (build_eq_ok_iff.mp h).1
  · intro h
    obtain ⟨l, hl⟩ := Layer.exists_build_of_valid index h
    exact ⟨⟨l, c⟩, build_eq_ok_iff.mpr ⟨h, rfl, hl⟩⟩

end Client

/-! ## 3. Loaded settings -/

/-- Settings that one of the three ways of loading comes to. -/
inductive ClientConfig.Loaded : ClientConfig → Prop where
  | layers {fs : Files} {env : Environment} {workingDirectory programDirectory : Option FilePath}
      {c : ClientConfig}
      (h : (fs.load env workingDirectory programDirectory).outcome.1 = .ok c) : Loaded c
  | environment {env : Environment} {c : ClientConfig} (h : env.load.outcome.1 = .ok c) : Loaded c
  | file {fs : Files} {workingDirectory path programDirectory : Option FilePath} {c : ClientConfig}
      (h : (fs.loadFrom workingDirectory path programDirectory).outcome.1 = .ok c) : Loaded c

section Loading

variable {fs : Files} {env : Environment} {workingDirectory path programDirectory : Option FilePath}

/-- What is loaded from a file and variables is valid. -/
theorem Files.valid_of_load (h : (fs.load env workingDirectory programDirectory).outcome.1 = .ok c) :
    c.validate = .ok () := by
  obtain ⟨_, _, _, _, hvalid⟩ := load_eq_ok_iff.mp h
  exact hvalid

/-- What is loaded from variables alone is valid. -/
theorem Environment.valid_of_load (h : env.load.outcome.1 = .ok c) : c.validate = .ok () := by
  -- in an empty tree of files there is nothing but the variables
  have hnothing : (Files.load ⟨[]⟩ env none none).outcome.1 = env.load.outcome.1 :=
    Files.load_eq_load_of_probe_eq_none rfl
  exact Files.valid_of_load (hnothing.trans h)

/-- What is loaded from a file alone is valid. -/
theorem Files.valid_of_loadFrom
    (h : (fs.loadFrom workingDirectory path programDirectory).outcome.1 = .ok c) :
    c.validate = .ok () := by
  rw [loadFrom] at h
  cases hpath : path.or (fs.probe workingDirectory programDirectory) with
  | none =>
    rw [hpath] at h
    cases h
  | some p =>
    simp only [hpath, LoadM.outcome_bind_ofExcept, bind_eq_ok_iff,
      ClientConfig.validated_eq_ok_iff] at h
    obtain ⟨_, _, _, hvalid⟩ := h
    exact hvalid

end Loading

/-- **What is loaded is valid.** -/
theorem ClientConfig.Loaded.valid (h : c.Loaded) : c.validate = .ok () := by
  cases h with
  | layers h => exact Files.valid_of_load h
  | environment h => exact Environment.valid_of_load h
  | file h => exact Files.valid_of_loadFrom h

/-! ## 4. Agreement -/

/-- Switches are not looked at when settings are checked. -/
theorem ClientConfig.validate_switched (c : ClientConfig) (breakerOn retryOn : Bool) :
    (c.switched breakerOn retryOn).validate = c.validate := rfl

/-- Switches are not looked at when a layer is made. -/
theorem Layer.build_switched_eq_error_iff (breakerOn retryOn : Bool) :
    Layer.build index true (c.switched breakerOn retryOn).layer = .error f ↔
      Layer.build index true c.layer = .error f := by
  rw [build_eq_error_iff, build_eq_error_iff]
  rfl

/-- **The validators agree.**  Take any settings, and a transport to put inside.

* A client is made exactly if the settings are valid, and fails otherwise with the fault of the settings;
  the layer that is made on the way never fails.
* A layer is made from the settings exactly if they are valid with any time for a request.  Otherwise it
  has the fault that these have, except that it looks at the least failing status first.
* What is made carries the settings.
* Breaker and retries switched off or on change nothing in this: the same settings are refused, for the
  same fault.
* What is loaded, in any of the three ways, makes a client. -/
theorem validators_agree (index : Nat) (c : ClientConfig) :
    ((∃ client, Client.build index c = .ok client) ↔ c.validate = .ok ()) ∧
    (∀ e, Client.build index c = .error e ↔ ∃ f, c.validate = .error f ∧ e = .config f) ∧
    (c.validate = .ok () → ∃ l, Layer.build index true c.layer = .ok l) ∧
    (∀ t : Duration, t ≠ .zero →
      ((∃ l, Layer.build index true c.layer = .ok l) ↔ (c.withTimeout t).validate = .ok ()) ∧
      ∀ f, Layer.build index true c.layer = .error f ↔
        ¬ isStatus c.serverErrorThreshold ∧ f = .serverErrorThreshold c.serverErrorThreshold ∨
          isStatus c.serverErrorThreshold ∧ (c.withTimeout t).validate = .error f) ∧
    (∀ l, Layer.build index true c.layer = .ok l → l.Carries c) ∧
    (∀ client, Client.build index c = .ok client → client.config = c ∧ client.layer.Carries c) ∧
    (∀ breakerOn retryOn,
      (c.switched breakerOn retryOn).validate = c.validate ∧
      (∀ e, Client.build index (c.switched breakerOn retryOn) = .error e ↔
        Client.build index c = .error e) ∧
      ∀ f, Layer.build index true (c.switched breakerOn retryOn).layer = .error f ↔
        Layer.build index true c.layer = .error f) ∧
    (c.Loaded → ∃ client, Client.build index c = .ok client) := by
  refine ⟨Client.exists_build_iff, fun e => Client.build_eq_error_iff, Layer.exists_build_of_valid index,
    fun t ht => ⟨Layer.exists_build_iff_of_timeout ht, fun f => Layer.build_eq_error_iff_of_timeout ht⟩,
    fun l => Layer.carries_of_build, fun client hclient => ?_, fun breakerOn retryOn => ⟨?_, fun e => ?_,
      fun f => Layer.build_switched_eq_error_iff breakerOn retryOn⟩,
    fun hloaded => Client.exists_build_iff.mpr hloaded.valid⟩
  · obtain ⟨-, hconfig, hlayer⟩ := Client.build_eq_ok_iff.mp hclient
    exact ⟨hconfig, Layer.carries_of_build hlayer⟩
  · exact c.validate_switched breakerOn retryOn
  · rw [Client.build_eq_error_iff, Client.build_eq_error_iff, c.validate_switched breakerOn retryOn]

/-- Variables that switch breaker and retries off. -/
def bothOff : Environment :=
  ⟨[("STEADFAST_CB_ENABLED", "off".toUTF8), ("STEADFAST_RETRY_ENABLED", "no".toUTF8)]⟩

/-- The defaults with breaker and retries off are loaded from them, and make a client that does without
both.  Without time for a request the defaults make no client, but still a layer. -/
theorem validators_agree_switched_off_or_timeless :
    (bothOff.load.outcome.1 = .ok (({} : ClientConfig).switched false false) ∧
      ∃ client, Client.build 0 (({} : ClientConfig).switched false false) = .ok client ∧
        client.config = ({} : ClientConfig).switched false false ∧
        client.layer.policy = ⟨false, false, 500⟩) ∧
    Duration.ofMillis 1 ≠ .zero ∧
      Client.build 0 (({} : ClientConfig).withTimeout .zero) = .error (.config .transportTimeout) ∧
      ∃ l, Layer.build 0 true (({} : ClientConfig).withTimeout .zero).layer = .ok l := by
  constructor
  · have hload : bothOff.load.outcome.1 = .ok (({} : ClientConfig).switched false false) := by rfl
    obtain ⟨-, -, -, -, -, hcarries, -, hloaded⟩ :=
      validators_agree 0 (({} : ClientConfig).switched false false)
    obtain ⟨client, hclient⟩ := hloaded (.environment hload)
    obtain ⟨hconfig, hlayer⟩ := hcarries client hclient
    exact ⟨hload, client, hclient, hconfig, hlayer.policy⟩
  · have htime : Duration.ofMillis 1 ≠ .zero := by decide
    obtain ⟨-, hfault, -, hlayer, -⟩ := validators_agree 0 (({} : ClientConfig).withTimeout .zero)
    refine ⟨htime, (hfault _).mpr ⟨.transportTimeout, ?_, rfl⟩, (hlayer _ htime).1.mpr ?_⟩
    · rfl
    · rfl

/-- Settings with a fault in each part, breaker and retries being off. -/
def faultyThroughout : ClientConfig where
  breaker := { enabled := false, failureThreshold := 0 }
  retry := { enabled := false, multiplier := 0.0 / 0.0 }
  serverErrorThreshold := 42
  transport := { timeout := .zero }

/-- The whole is refused for its breaker, a layer for its least failing status.  With that repaired the layer
is refused for its breaker as well, and with the breaker repaired for the multiplier, which is no number. -/
example : faultyThroughout.validate = .error .failureThreshold ∧
    Layer.build 0 true faultyThroughout.layer = .error (.serverErrorThreshold 42) ∧
    Layer.build 0 true { faultyThroughout.layer with serverErrorThreshold := 500 } =
      .error .failureThreshold ∧
    Layer.build 0 true { faultyThroughout.layer with serverErrorThreshold := 500, breaker := {} } =
      .error .multiplier :=
  ⟨rfl, rfl, rfl, rfl⟩

end Resilience
