/-
# Loading settings

Settings come from a file, from environment variables, or from both, the variables on top.  What is
loaded is validated last.

* `LoadFault`: why settings cannot be loaded, with its wording.
* `Files.load`, `Environment.load`, `Files.loadFrom`: the three ways, with the lines they write to the
  trace.
-/
import Resilience.Config.Document
import Resilience.Config.Environment
import Resilience.Config.Files
import Resilience.Json.Document
import Resilience.Toml.Reader
import Resilience.Trace

namespace Resilience

/-- The languages of files with settings. -/
inductive FileFormat where
  | json
  | toml
deriving DecidableEq

/-- The name of the language. -/
def FileFormat.name : FileFormat → String
  | .json => "JSON"
  | .toml => "TOML"

/-- The document in a text of the language, as deep as settings go. -/
def FileFormat.document? (format : FileFormat) (text : String) : Option Document :=
  match format with
  | .json => Json.readDocument ClientConfig.documentDepth text.toUTF8
  | .toml => Toml.readDocument text

/-- Why a file cannot be read. -/
inductive ReadFault where
  | directory
  | notText
deriving DecidableEq

/-- The wording of a fault in reading. -/
def ReadFault.message : ReadFault → String
  | .directory => "Is a directory (os error 21)"
  | .notText => "stream did not contain valid UTF-8"

/-- Why settings cannot be loaded. -/
inductive LoadFault where
  | notFound (path : FilePath)
  | noFile
  | read (path : FilePath) (fault : ReadFault)
  | parse (format : FileFormat)
  | unsupportedFormat (extension : String)
  | variable (fault : VariableFault)
  | invalid (fault : ConfigFault)
deriving DecidableEq

namespace LoadFault

/-- The wording of the fault; that of a fault in a document is left to its reader. -/
def message : LoadFault → String
  | .notFound path => "config file not found: " ++ path.text
  | .noFile => "no config file found in any of the standard locations"
  | .read path fault => "failed to read config file " ++ path.text ++ ": " ++ fault.message
  | .parse format => "invalid " ++ format.name ++ " format"
  | .unsupportedFormat extension => "unsupported config format: " ++ extension
  | .variable fault => "invalid value for " ++ fault.name ++ ": " ++ fault.reason
  | .invalid fault => fault.message

/-- The faults behind the fault. -/
def sources : LoadFault → List String
  | .read _ fault => [fault.message]
  | _ => []

end LoadFault

/-- Loading may fail, and writes lines to the trace. -/
abbrev LoadM := ExceptT LoadFault (StateM (List TraceLine))

/-- Writes a line. -/
def LoadM.trace (line : TraceLine) : LoadM Unit := modify fun lines => lines ++ [line]

/-- Takes over a result or a fault. -/
def LoadM.ofExcept {α : Type} : Except LoadFault α → LoadM α
  | .ok a => pure a
  | .error f => throw f

/-- What was loaded, and the lines written. -/
def LoadM.outcome {α : Type} (m : LoadM α) : Except LoadFault α × List TraceLine := m.run.run []

/-- Passes settings on if they are valid. -/
def ClientConfig.validated (c : ClientConfig) : Except LoadFault ClientConfig :=
  match c.validate with
  | .ok () => .ok c
  | .error f => .error (.invalid f)

/-- The settings in a text of the given language. -/
def ClientConfig.parse (format : FileFormat) (text : String) : Except LoadFault ClientConfig :=
  match (format.document? text).bind ofDocument? with
  | some c => .ok c
  | none => .error (.parse format)

/-- The language of a file with the extension; none stands for JSON. -/
def FileFormat.ofExtension : Option String → Except LoadFault FileFormat
  | none => .ok .json
  | some "json" => .ok .json
  | some "toml" => .ok .toml
  | some other => .error (.unsupportedFormat other)

/-- The text of what is found at a path. -/
def FileEntry.read (path : FilePath) : FileEntry → Except LoadFault String
  | .directory => .error (.read path .directory)
  | .file content =>
    match String.fromUTF8? content with
    | some s => .ok s
    | none => .error (.read path .notText)

/-- The settings in what is found at a path. -/
def FileEntry.settings (path : FilePath) (e : FileEntry) : Except LoadFault ClientConfig := do
  let text ← e.read path
  ClientConfig.parse (← FileFormat.ofExtension path.extension?) text

namespace Files

/-- The settings in a file, not yet validated. -/
def settings (fs : Files) (path : FilePath) : LoadM ClientConfig := do
  match fs.find? path with
  | none => throw (.notFound path)
  | some e =>
    LoadM.trace (.info "Loading configuration from file" [("path", path.text)])
    LoadM.ofExcept (e.settings path)

end Files

/-- Overrides fields by variables, or fails. -/
def Environment.apply (env : Environment) (c : ClientConfig) : Except LoadFault ClientConfig :=
  match env.overlay c with
  | (c, none) => .ok c
  | (_, some f) => .error (.variable f)

/-- Loads settings from the first file in the standard places, if there is one, and from variables. -/
def Files.load (fs : Files) (env : Environment) (workingDirectory : Option FilePath)
    (programDirectory : Option FilePath := none) : LoadM ClientConfig := do
  let base ←
    match fs.probe workingDirectory programDirectory with
    | some path => fs.settings path
    | none => do
      LoadM.trace (.debug "No config file found, using defaults" [])
      pure {}
  let merged ← LoadM.ofExcept (env.apply base)
  LoadM.ofExcept merged.validated

/-- Loads settings from variables alone. -/
def Environment.load (env : Environment) : LoadM ClientConfig := do
  let merged ← LoadM.ofExcept (env.apply {})
  let valid ← LoadM.ofExcept merged.validated
  LoadM.trace (.info "Configuration loaded from environment variables" [])
  pure valid

/-- Loads settings from the given file, or from the first in the standard places. -/
def Files.loadFrom (fs : Files) (workingDirectory path : Option FilePath)
    (programDirectory : Option FilePath := none) : LoadM ClientConfig := do
  match path.or (fs.probe workingDirectory programDirectory) with
  | none => throw .noFile
  | some path =>
    let c ← fs.settings path
    LoadM.ofExcept c.validated

end Resilience
