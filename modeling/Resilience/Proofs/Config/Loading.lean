/-
# Loading settings

Settings are loaded from the first file in the standard places, if there is one, and from variables.
This file says what is loaded, when loading fails, and which fault is reported.

* `Files.Probed`: what can be found in the standard places; one of its cases is there
  (`Files.exists_probed`).
* `Files.Probed.load_eq_ok_iff`, `load_eq_error_iff`, `load_eq_error`: what is loaded in each case.
* `load_layers`: **every field is layered, and faults come from the file, from the variables and from the
  whole, in this order.**
* `load_of_stray_byte`: bytes that encode no text are no fault, though no value is written like this.
-/
import Resilience.Proofs.Config.Layering
import Resilience.Proofs.Config.Validity

namespace Resilience

variable {env : Environment} {d : Document} {b c : ClientConfig}

/-! ## 1. The file -/

/-- What is found in the standard places: nothing, or a document of settings, or something that cannot
be read as one. -/
inductive Files.Probed (fs : Files) (workingDirectory programDirectory : Option FilePath) :
    Except LoadFault (Option Document) → Prop where
  | nothing (h : fs.probe workingDirectory programDirectory = none) :
      fs.Probed workingDirectory programDirectory (.ok none)
  | unreadable {path e f} (h : fs.probe workingDirectory programDirectory = some path)
      (he : fs.find? path = some e) (hread : e.read path = .error f) :
      fs.Probed workingDirectory programDirectory (.error f)
  | malformed {path e text format} (h : fs.probe workingDirectory programDirectory = some path)
      (he : fs.find? path = some e) (hread : e.read path = .ok text)
      (hformat : FileFormat.ofExtension path.extension? = .ok format)
      (hdocument : ∀ d, format.document? text = some d → ¬ d.IsSettings) :
      fs.Probed workingDirectory programDirectory (.error (.parse format))
  | settings {path e text format d} (h : fs.probe workingDirectory programDirectory = some path)
      (he : fs.find? path = some e) (hread : e.read path = .ok text)
      (hformat : FileFormat.ofExtension path.extension? = .ok format)
      (hdocument : format.document? text = some d) (hd : d.IsSettings) :
      fs.Probed workingDirectory programDirectory (.ok (some d))

variable {fs : Files} {workingDirectory programDirectory : Option FilePath}
  {r : Except LoadFault (Option Document)} {f : LoadFault} {path : FilePath}

/-- Where a file is looked for, its name tells its language. -/
theorem Files.format_of_probe (h : fs.probe workingDirectory programDirectory = some path) :
    ∃ format, FileFormat.ofExtension path.extension? = .ok format := by
  have hmem := List.mem_of_find?_eq_some h
  rw [standardPlaces, List.mem_flatMap] at hmem
  obtain ⟨directory, -, hjoin⟩ := hmem
  obtain ⟨name, hname, rfl⟩ := List.mem_map.mp hjoin
  have hextension : (directory.join name).extension? = (FilePath.mk "" [name]).extension? := by
    simp [FilePath.extension?, FilePath.join]
  rw [hextension]
  simp only [standardNames, List.mem_cons, List.not_mem_nil, or_false] at hname
  obtain rfl | rfl := hname
  · exact ⟨.json, by decide⟩
  · exact ⟨.toml, by decide⟩

/-- Something is found in the place that is found. -/
theorem Files.find?_of_probe (h : fs.probe workingDirectory programDirectory = some path) :
    ∃ e, fs.find? path = some e :=
  Option.isSome_iff_exists.mp (List.find?_some (p := fun p => (fs.find? p).isSome) h)

/-- One of the cases of a probe is there. -/
theorem Files.exists_probed (fs : Files) (workingDirectory programDirectory : Option FilePath) :
    ∃ r, fs.Probed workingDirectory programDirectory r := by
  cases h : fs.probe workingDirectory programDirectory with
  | none => exact ⟨_, .nothing h⟩
  | some path =>
    obtain ⟨e, he⟩ := find?_of_probe h
    obtain ⟨format, hformat⟩ := format_of_probe h
    cases hread : e.read path with
    | error f => exact ⟨_, .unreadable h he hread⟩
    | ok text =>
      by_cases hd : ∃ d, format.document? text = some d ∧ d.IsSettings
      · obtain ⟨d, hdocument, hd⟩ := hd
        exact ⟨_, .settings h he hread hformat hdocument hd⟩
      · exact ⟨_, .malformed h he hread hformat fun d hdocument hs => hd ⟨d, hdocument, hs⟩⟩

/-! ## 2. Before the overrides -/

section LoadM

variable {α β : Type}

theorem LoadM.ofExcept_bind (a : Except LoadFault α) (k : α → Except LoadFault β) :
    (LoadM.ofExcept a >>= fun x => LoadM.ofExcept (k x)) = LoadM.ofExcept (a >>= k) := by
  cases a <;> rfl

/-- What follows without a line in the trace changes the result alone. -/
theorem LoadM.outcome_bind_ofExcept (m : LoadM α) (k : α → Except LoadFault β) :
    (m >>= fun x => LoadM.ofExcept (k x)).outcome = (m.outcome.1 >>= k, m.outcome.2) := by
  change ExceptT.bindCont (fun x => LoadM.ofExcept (k x)) (m.outcome.1) m.outcome.2 = _
  cases m.outcome.1 with
  | error f => rfl
  | ok x =>
    change (LoadM.ofExcept (k x)).run.run m.outcome.2 = (k x, m.outcome.2)
    cases k x <;> rfl

end LoadM

/-- The settings before any override. -/
def Files.base (fs : Files) (workingDirectory programDirectory : Option FilePath) :
    LoadM ClientConfig :=
  match fs.probe workingDirectory programDirectory with
  | some path => fs.settings path
  | none => do
    LoadM.trace (.debug "No config file found, using defaults" [])
    pure {}

theorem Files.load_outcome :
    (fs.load env workingDirectory programDirectory).outcome =
      ((fs.base workingDirectory programDirectory).outcome.1 >>= fun b =>
        env.apply b >>= ClientConfig.validated,
       (fs.base workingDirectory programDirectory).outcome.2) := by
  rw [← LoadM.outcome_bind_ofExcept, load, base]
  simp only [← LoadM.ofExcept_bind]
  cases fs.probe workingDirectory programDirectory <;> simp

theorem Files.base_outcome_of_probe {e : FileEntry}
    (h : fs.probe workingDirectory programDirectory = some path) (he : fs.find? path = some e) :
    (fs.base workingDirectory programDirectory).outcome.1 = e.settings path := by
  rw [base, h]
  change (fs.settings path).outcome.1 = _
  rw [settings, he]
  dsimp only
  cases e.settings path <;> rfl

theorem FileEntry.settings_of_read {e : FileEntry} {text : String} {format : FileFormat}
    (hread : e.read path = .ok text)
    (hformat : FileFormat.ofExtension path.extension? = .ok format) :
    e.settings path = ClientConfig.parse format text := by
  rw [settings, hread, hformat]
  rfl

/-- Before any override there is what the document gives. -/
theorem Files.Probed.exists_base {doc? : Option Document}
    (h : fs.Probed workingDirectory programDirectory (.ok doc?)) :
    ∃ b, IsBase doc? b ∧ (fs.base workingDirectory programDirectory).outcome.1 = .ok b := by
  cases h with
  | nothing h =>
    refine ⟨{}, fun s hs => congrArg some (get_default s hs).symm, ?_⟩
    rw [base, h]
    rfl
  | settings h he hread hformat hdocument hd =>
    obtain ⟨b, hb⟩ := isSettings_iff.mp hd
    refine ⟨b, (ofDocument?_eq_some_iff_reads.mp hb).2, ?_⟩
    rw [base_outcome_of_probe h he, FileEntry.settings_of_read hread hformat, ClientConfig.parse,
      hdocument, Option.bind_some, hb]

/-- Without settings to override there is the fault of the file. -/
theorem Files.Probed.base_eq_error (h : fs.Probed workingDirectory programDirectory (.error f)) :
    (fs.base workingDirectory programDirectory).outcome.1 = .error f := by
  cases h with
  | unreadable h he hread =>
    rw [base_outcome_of_probe h he, FileEntry.settings, hread]
    rfl
  | @malformed path e text format h he hread hformat hdocument =>
    have hnone : (format.document? text).bind ClientConfig.ofDocument? = none := by
      rw [Option.bind_eq_none_iff]
      intro d hd
      by_contra hsome
      exact hdocument d hd (isSettings_iff.mpr (Option.ne_none_iff_exists'.mp hsome))
    rw [base_outcome_of_probe h he, FileEntry.settings_of_read hread hformat, ClientConfig.parse,
      hnone]

/-! ## 3. Loading -/

theorem ClientConfig.validated_eq_ok_iff {merged : ClientConfig} :
    merged.validated = .ok c ↔ merged = c ∧ c.validate = .ok () := by
  rw [validated]
  split <;> rename_i h <;> constructor <;> grind

theorem ClientConfig.validated_eq_error_iff :
    c.validated = .error f ↔ ∃ fault, c.validate = .error fault ∧ f = .invalid fault := by
  rw [validated]
  split <;> rename_i h <;> simp [h, eq_comm]

/-- The variables are laid over what the document gives, and the whole is validated. -/
theorem Files.Probed.exists_load {doc? : Option Document}
    (h : fs.Probed workingDirectory programDirectory (.ok doc?)) :
    ∃ b, IsBase doc? b ∧ ∀ env : Environment,
      (fs.load env workingDirectory programDirectory).outcome.1 =
        env.apply b >>= ClientConfig.validated := by
  obtain ⟨b, hb, hbase⟩ := h.exists_base
  refine ⟨b, hb, fun env => ?_⟩
  rw [load_outcome, hbase]
  rfl

/-- **After a file that can be read, settings are loaded exactly if the variables can be read and the
whole is valid.** -/
theorem Files.Probed.load_eq_ok_iff {doc? : Option Document}
    (h : fs.Probed workingDirectory programDirectory (.ok doc?)) :
    (fs.load env workingDirectory programDirectory).outcome.1 = .ok c ↔
      env.Readable ∧ Layers env doc? c ∧ c.validate = .ok () := by
  obtain ⟨b, hb, hload⟩ := h.exists_load
  rw [hload, bind_eq_ok_iff]
  simp only [Environment.apply_eq_ok_iff, hb.overlaid_iff, ClientConfig.validated_eq_ok_iff]
  constructor
  · rintro ⟨_, ⟨hread, hlayers⟩, rfl, hvalid⟩
    exact ⟨hread, hlayers, hvalid⟩
  · rintro ⟨hread, hlayers, hvalid⟩
    exact ⟨c, ⟨hread, hlayers⟩, rfl, hvalid⟩

/-- **After a file that can be read, the first variable that cannot be read is the fault, and else that of
the whole.** -/
theorem Files.Probed.load_eq_error_iff {doc? : Option Document}
    (h : fs.Probed workingDirectory programDirectory (.ok doc?)) :
    (fs.load env workingDirectory programDirectory).outcome.1 = .error f ↔
      (∃ fault, env.FirstFault fault ∧ f = .variable fault) ∨
        env.Readable ∧ ∃ c fault, Layers env doc? c ∧ c.validate = .error fault ∧
          f = .invalid fault := by
  obtain ⟨b, hb, hload⟩ := h.exists_load
  rw [hload, bind_eq_error_iff, Environment.apply_eq_error_iff]
  simp only [Environment.apply_eq_ok_iff, hb.overlaid_iff, ClientConfig.validated_eq_error_iff]
  refine or_congr_right ⟨?_, ?_⟩
  · rintro ⟨c, ⟨hread, hlayers⟩, fault, hinvalid⟩
    exact ⟨hread, c, fault, hlayers, hinvalid⟩
  · rintro ⟨hread, c, fault, hlayers, hinvalid⟩
    exact ⟨c, ⟨hread, hlayers⟩, fault, hinvalid⟩

/-- **A file that cannot be read is the fault**, whatever the variables. -/
theorem Files.Probed.load_eq_error
    (h : fs.Probed workingDirectory programDirectory (.error f)) :
    (fs.load env workingDirectory programDirectory).outcome.1 = .error f := by
  rw [load_outcome, h.base_eq_error]
  rfl

/-- From a file alone, settings are loaded as they are without a variable. -/
theorem Files.load_eq_loadFrom (hsilent : env.Silent)
    (h : fs.probe workingDirectory programDirectory = some path) :
    (fs.load env workingDirectory programDirectory).outcome =
      (fs.loadFrom workingDirectory none programDirectory).outcome := by
  have hfrom : fs.loadFrom workingDirectory none programDirectory =
      fs.base workingDirectory programDirectory >>= fun b => LoadM.ofExcept b.validated := by
    rw [loadFrom, base, h]
    rfl
  rw [load_outcome, hfrom, LoadM.outcome_bind_ofExcept]
  simp only [hsilent.apply_eq]
  rfl

/-- Without a file, settings are loaded from the variables alone. -/
theorem Files.load_eq_load_of_probe_eq_none
    (h : fs.probe workingDirectory programDirectory = none) :
    (fs.load env workingDirectory programDirectory).outcome.1 = env.load.outcome.1 := by
  have hbase : (fs.base workingDirectory programDirectory).outcome.1 = .ok {} := by
    rw [base, h]
    rfl
  rw [load_outcome, hbase]
  change (env.apply {} >>= ClientConfig.validated) = _
  rw [Environment.load]
  cases env.apply {} with
  | error f => rfl
  | ok c =>
    change c.validated = (LoadM.ofExcept c.validated >>= fun valid =>
      LoadM.trace (.info "Configuration loaded from environment variables" []) >>= fun _ =>
        pure valid).outcome.1
    cases c.validated <;> rfl

/-- A document of settings comes from a file. -/
theorem Files.Probed.exists_path
    (h : fs.Probed workingDirectory programDirectory (.ok (some d))) :
    ∃ path, fs.probe workingDirectory programDirectory = some path := by
  cases h with
  | settings h => exact ⟨_, h⟩

/-- Settings of which a file gives a part that is not valid alone are not loaded from it alone. -/
theorem Files.Probed.loadFrom_eq_error {fault : ConfigFault}
    (h : fs.Probed workingDirectory programDirectory (.ok (some d)))
    (hb : Layers ⟨[]⟩ (some d) b) (hinvalid : b.validate = .error fault) :
    (fs.loadFrom workingDirectory none programDirectory).outcome.1 = .error (.invalid fault) := by
  obtain ⟨path, hpath⟩ := h.exists_path
  rw [← load_eq_loadFrom Environment.silent_nil hpath, h.load_eq_error_iff]
  exact .inr ⟨Environment.silent_nil.readable, b, fault, hb, hinvalid, rfl⟩

/-- What is loaded comes from a file that can be read. -/
theorem Files.exists_probed_of_load (h :
    (fs.load env workingDirectory programDirectory).outcome.1 = .ok c) :
    ∃ doc?, fs.Probed workingDirectory programDirectory (.ok doc?) := by
  obtain ⟨r, hr⟩ := fs.exists_probed workingDirectory programDirectory
  cases r with
  | error f =>
    rw [hr.load_eq_error] at h
    cases h
  | ok doc? => exact ⟨doc?, hr⟩

theorem Files.load_eq_ok_iff : (fs.load env workingDirectory programDirectory).outcome.1 = .ok c ↔
    ∃ doc?, fs.Probed workingDirectory programDirectory (.ok doc?) ∧ env.Readable ∧
      Layers env doc? c ∧ c.validate = .ok () := by
  constructor
  · intro h
    obtain ⟨doc?, hdoc⟩ := exists_probed_of_load h
    exact ⟨doc?, hdoc, hdoc.load_eq_ok_iff.mp h⟩
  · rintro ⟨doc?, hdoc, h⟩
    exact hdoc.load_eq_ok_iff.mpr h

theorem Files.load_eq_error_iff :
    (fs.load env workingDirectory programDirectory).outcome.1 = .error f ↔
      fs.Probed workingDirectory programDirectory (.error f) ∨
        ∃ doc?, fs.Probed workingDirectory programDirectory (.ok doc?) ∧
          ((∃ fault, env.FirstFault fault ∧ f = .variable fault) ∨
            env.Readable ∧ ∃ c fault, Layers env doc? c ∧ c.validate = .error fault ∧
              f = .invalid fault) := by
  constructor
  · intro h
    obtain ⟨r, hr⟩ := fs.exists_probed workingDirectory programDirectory
    cases r with
    | error f' =>
      rw [hr.load_eq_error] at h
      cases h
      exact .inl hr
    | ok doc? => exact .inr ⟨doc?, hr, hr.load_eq_error_iff.mp h⟩
  · rintro (hf | ⟨doc?, hdoc, h⟩)
    · exact hf.load_eq_error
    · exact hdoc.load_eq_error_iff.mpr h

/-- The time for connecting is that of the file, whatever the variables. -/
theorem Files.connectTimeout_of_load {env' : Environment} {c' : ClientConfig}
    (h : (fs.load env workingDirectory programDirectory).outcome.1 = .ok c)
    (h' : (fs.load env' workingDirectory programDirectory).outcome.1 = .ok c') :
    c.transport.connectTimeout = c'.transport.connectTimeout := by
  obtain ⟨doc?, hdoc⟩ := exists_probed_of_load h
  obtain ⟨b, hb, -⟩ := hdoc.exists_base
  have hc := hb.connectTimeout_eq (hdoc.load_eq_ok_iff.mp h).2.1
  have hc' := hb.connectTimeout_eq (hdoc.load_eq_ok_iff.mp h').2.1
  exact hc.trans hc'.symm

/-- A field whose variable is set to bytes that encode no text is what it is without variables. -/
theorem Files.Probed.based_of_garbled {doc? : Option Document}
    (h : fs.Probed workingDirectory programDirectory (.ok doc?))
    (hload : (fs.load env workingDirectory programDirectory).outcome.1 = .ok c) :
    ∀ s ∈ clientFields, s.Garbled env → s.Based doc? (s.get c) :=
  fun s hs hgarbled => ((h.load_eq_ok_iff.mp hload).2.1 s hs).2 fun _ => hgarbled.not_setTo

/-- **The layers of loaded settings.**  Settings are loaded exactly if what is found in the standard
places, if anything, is a document of settings, every variable that is set to a text can be read, and what
they make together is valid.  Each field is then what its variable is set to, or else what the document
gives, or else the default; a blank user agent is none, no variable changes the time for connecting, and a
variable that is set to bytes that encode no text counts as not set.

Otherwise the fault is that of the file, or else that of the first variable that cannot be read, or else
that of the whole.  Settings that are not valid in the file alone are loaded if the variables repair
them.  Without a variable set, a file is loaded as it is alone; without a file, the variables are loaded
as they are alone. -/
theorem load_layers (fs : Files) (env : Environment)
    (workingDirectory programDirectory : Option FilePath) :
    (∀ c, (fs.load env workingDirectory programDirectory).outcome.1 = .ok c ↔
      ∃ doc?, fs.Probed workingDirectory programDirectory (.ok doc?) ∧ env.Readable ∧
        Layers env doc? c ∧ c.validate = .ok ()) ∧
    (∀ doc?, fs.Probed workingDirectory programDirectory (.ok doc?) → env.Readable →
      ∃! c, Layers env doc? c) ∧
    (∀ c, (fs.load env workingDirectory programDirectory).outcome.1 = .ok c →
      (∀ raw : String, env.entries.lookup "STEADFAST_HTTP_USER_AGENT" = some raw.toUTF8 →
        (∀ x ∈ raw.toList, Text.isBlank x = true) → c.transport.userAgent = none) ∧
      (∀ env' c', (fs.load env' workingDirectory programDirectory).outcome.1 = .ok c' →
        c'.transport.connectTimeout = c.transport.connectTimeout) ∧
      ∀ doc?, fs.Probed workingDirectory programDirectory (.ok doc?) →
        ∀ s ∈ clientFields, s.Garbled env → s.Based doc? (s.get c)) ∧
    (∀ f, (fs.load env workingDirectory programDirectory).outcome.1 = .error f ↔
      fs.Probed workingDirectory programDirectory (.error f) ∨
        ∃ doc?, fs.Probed workingDirectory programDirectory (.ok doc?) ∧
          ((∃ fault, env.FirstFault fault ∧ f = .variable fault) ∨
            env.Readable ∧ ∃ c fault, Layers env doc? c ∧ c.validate = .error fault ∧
              f = .invalid fault)) ∧
    (∀ d b fault, fs.Probed workingDirectory programDirectory (.ok (some d)) →
      Layers ⟨[]⟩ (some d) b → b.validate = .error fault →
        (fs.loadFrom workingDirectory none programDirectory).outcome.1 = .error (.invalid fault) ∧
        ∀ c, (fs.load env workingDirectory programDirectory).outcome.1 = .ok c ↔
          env.Readable ∧ Layers env (some d) c ∧ c.validate = .ok ()) ∧
    (∀ path, fs.probe workingDirectory programDirectory = some path → env.Silent →
      (fs.load env workingDirectory programDirectory).outcome =
        (fs.loadFrom workingDirectory none programDirectory).outcome) ∧
    (fs.probe workingDirectory programDirectory = none →
      (fs.load env workingDirectory programDirectory).outcome.1 = env.load.outcome.1) := by
  refine ⟨fun c => Files.load_eq_ok_iff, fun doc? hdoc hread => ?_,
    fun c hc => ⟨fun raw hraw hblank => ?_, fun env' c' hc' => Files.connectTimeout_of_load hc' hc,
      fun doc? hdoc => hdoc.based_of_garbled hc⟩,
    fun f => Files.load_eq_error_iff,
    fun d b fault hd hb hinvalid => ⟨hd.loadFrom_eq_error hb hinvalid, fun c => hd.load_eq_ok_iff⟩,
    fun path hpath hsilent => Files.load_eq_loadFrom hsilent hpath,
    Files.load_eq_load_of_probe_eq_none⟩
  · obtain ⟨b, hb, -⟩ := hdoc.exists_base
    exact hb.existsUnique_layers hread
  · obtain ⟨doc?, -, -, hlayers, -⟩ := Files.load_eq_ok_iff.mp hc
    exact hlayers.userAgent_of_blank hraw hblank

/-- Settings with a breaker that would open at the first call. -/
def zeroThreshold : Document :=
  .table [("circuit_breaker", .table [("failure_threshold", .integer 0)]),
    ("retry", .table [("initial_interval", .integer 250), ("multiplier", .double 1.5)]),
    ("transport", .table [("connect_timeout", .integer 40), ("user_agent", .text "steady/2")])]

/-- The same, written in JSON. -/
def zeroThresholdText : String :=
  "\x7b\"circuit_breaker\":\x7b\"failure_threshold\":0\x7d,\"retry\":\x7b\"initial_interval\":250," ++
    "\"multiplier\":1.5\x7d,\"transport\":\x7b\"connect_timeout\":40,\"user_agent\":\"steady/2\"\x7d\x7d"

/-- A directory with a file of these settings. -/
def filesWithZeroThreshold : Files :=
  ⟨[(["client", "steadfast.json"], .file zeroThresholdText.toUTF8)]⟩

/-- The settings of the file. -/
def refusedConfig : ClientConfig :=
  { breaker := { failureThreshold := 0 },
    retry := { initialInterval := .ofMillis 250, multiplier := 1.5 },
    transport := { connectTimeout := .ofMillis 40, userAgent := some "steady/2" } }

/-- Variables that give the breaker another threshold, a span and a double, take the user agent away, and say
nothing of the attempts, since they are set to a byte that begins no character. -/
def repairs : Environment :=
  ⟨[("STEADFAST_CB_FAILURE_THRESHOLD", "3".toUTF8), ("STEADFAST_HTTP_USER_AGENT", " \t\u2003".toUTF8),
    ("STEADFAST_RETRY_MAX_ATTEMPTS", ⟨#[0xff]⟩), ("STEADFAST_RETRY_MAX_INTERVAL_MS", " +1500\n".toUTF8),
    ("STEADFAST_RETRY_RANDOM_FACTOR", "2.5E-1".toUTF8)]⟩

/-- The settings of the file under the variables. -/
def repairedConfig : ClientConfig :=
  { breaker := { failureThreshold := 3 },
    retry := { initialInterval := .ofMillis 250, maxInterval := .ofMillis 1500, multiplier := 1.5,
               randomFactor := 0.25 },
    transport := { connectTimeout := .ofMillis 40 } }

/-- The file is refused alone, and accepted with the variables. -/
theorem load_layers_repaired :
    (filesWithZeroThreshold.loadFrom (some ⟨"", ["client"]⟩) none).outcome.1 =
        .error (.invalid .failureThreshold) ∧
      (filesWithZeroThreshold.load repairs (some ⟨"", ["client"]⟩)).outcome.1 = .ok repairedConfig := by
  have hpath : filesWithZeroThreshold.probe (some ⟨"", ["client"]⟩) none =
      some ⟨"", ["client", "steadfast.json"]⟩ := by decide
  have hdocument : FileFormat.document? .json zeroThresholdText = some zeroThreshold := by rfl
  have hsettings : zeroThreshold.IsSettings := isSettings_iff.mpr ⟨refusedConfig, by rfl⟩
  have hprobed : filesWithZeroThreshold.Probed (some ⟨"", ["client"]⟩) none
      (.ok (some zeroThreshold)) :=
    .settings hpath (by rfl) (by decide +kernel) (by rfl) hdocument hsettings
  have halone : Layers ⟨[]⟩ (some zeroThreshold) refusedConfig := by
    simp only [Layers, ClientField.layered_iff, clientFields, List.forall_mem_cons]
    exact ⟨rfl, rfl, rfl, rfl, rfl, rfl, rfl, rfl, rfl, rfl, rfl, rfl, rfl, rfl, List.forall_mem_nil _⟩
  have hmerged : Layers repairs (some zeroThreshold) repairedConfig := by
    simp only [Layers, ClientField.layered_iff, clientFields, List.forall_mem_cons]
    exact ⟨rfl, rfl, rfl, rfl, rfl, rfl, rfl, rfl, rfl, rfl, rfl, rfl, rfl, rfl, List.forall_mem_nil _⟩
  have hread : repairs.Readable := Environment.firstFault?_eq_none_iff.mp (by rfl)
  obtain ⟨hfrom, hload⟩ := (load_layers filesWithZeroThreshold repairs
    (some ⟨"", ["client"]⟩) none).2.2.2.2.1 _ _ .failureThreshold hprobed halone (by rfl)
  exact ⟨hfrom, (hload _).mpr ⟨hread, hmerged, by decide +kernel⟩⟩

/-- Settings are loaded though a variable is set to no value, if it is set to no text. -/
theorem load_of_stray_byte :
    (∃ s ∈ clientFields, s.overriddenBy = some "STEADFAST_RETRY_MAX_ATTEMPTS" ∧
      s.Garbled strayByte) ∧
    (Files.load ⟨[]⟩ strayByte none).outcome.1 = .ok {} :=
  ⟨strayByte_garbled, by rfl⟩

end Resilience
