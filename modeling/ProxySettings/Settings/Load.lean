import ProxySettings.Json.Strict
import ProxySettings.Settings.Json
import ProxySettings.Settings.Variables
import ProxySettings.Toml.Document
import ProxySettings.Yaml.Layer

/-!
# Loading settings

Settings are loaded from a file whose extension names its format, or from files of fixed names.
Every file is a layer, a later one above an earlier one, and the variables are above all of them. In
the proxy these are `load_from_path` and `load_from_env_or_file`.
-/

namespace ProxySettings

/-- The formats of configuration files. -/
inductive FileFormat where
  | toml
  | json
  | yaml
  deriving Repr, DecidableEq

namespace FileFormat

/-- The format that an extension names; case counts. -/
def ofExtension? (extension : String) : Option FileFormat :=
  if extension = "toml" then some toml
  else if extension = "json" then some json
  else if extension = "yaml" ∨ extension = "yml" then some yaml
  else none

/-- The layer of a JSON text, all of whose values have to be ones that can be kept. -/
def jsonLayer? (text : String) : Option Layer :=
  match Json.read? text.toList with
  | some (.object members) =>
    if (Json.object members).isStrict Json.maxDepth then some (Settings.layerOfMembers members)
    else none
  | _ => none

/-- The layer of a text. -/
def layer? (format : FileFormat) (text : String) : Option Layer :=
  match format with
  | toml => Toml.layer? text
  | json => jsonLayer? text
  | yaml => Yaml.layer? text

end FileFormat

namespace Settings

/-- The layer of a file's bytes. -/
def fileLayer (format : FileFormat) (bytes : List UInt8) : Except ConfigError Layer :=
  match (Utf8.decode? bytes).bind format.layer? with
  | some layer => .ok layer
  | none => .error (.parse .malformed)

/-- The settings of a layer, which have to be valid. -/
def ofLayers (layers : List Layer) : Traced Settings :=
  match ofLayer? layers.flatten with
  | none => .refuse (.parse .malformed)
  | some s => do
    s.validate
    return s

/-- Load the settings of a file, with the variables above it (`load_from_path`). -/
def load (w : World) (path : String) : Traced Settings := do
  match w.file? path, (World.extension? path).bind FileFormat.ofExtension? with
  | none, _ => .refuse (.fileNotFound .configuration path)
  | some _, none => .refuse (.parse .unsupportedFormat)
  | some bytes, some format =>
    ofLayers [← fileLayer format bytes, Variable.layer w.environment]

/-! ## Files of fixed names -/

/-- The files of fixed names with their formats, the lowest layer first. -/
def defaultFiles : List (String × FileFormat) := [
  ("mitmproxy.toml", .toml), ("mitmproxy.json", .json), ("mitmproxy.yaml", .yaml),
  ("mitmproxy.yml", .yaml)]

/-- The working directory and the directories above it, the nearest first. -/
def directories (workDir : String) : List String :=
  let names := (World.components workDir).filter (· ≠ "")
  (List.range (names.length + 1)).map fun n ↦
    "/" ++ "/".intercalate (names.take (names.length - n))

/-- The paths at which a file of a fixed name is looked for, the nearest first. Without a working
directory there are none. -/
def paths (w : World) (name : String) : List String :=
  match w.workDir with
  | .ok dir => (directories dir).map (World.join · name)
  | .error _ => []

/-- The paths at which the files of fixed names are looked for. -/
def defaultPaths (w : World) : List String := defaultFiles.flatMap fun (name, _) ↦ paths w name

/-- The bytes of the nearest file of a name. -/
def nearestFile? (w : World) (name : String) : Option (List UInt8) :=
  (paths w name).findSome? w.file?

/-- The layer of a file of a fixed name; a missing file has an empty one. -/
def defaultLayer (w : World) (name : String) (format : FileFormat) : Except ConfigError Layer :=
  match nearestFile? w name with
  | some bytes => fileLayer format bytes
  | none => .ok []

/-- Load the settings of the files of fixed names, with the variables above them
(`load_from_env_or_file`). -/
def loadDefault (w : World) : Traced Settings := do
  let layers ← defaultFiles.mapM fun (name, format) ↦ defaultLayer w name format
  ofLayers (layers ++ [Variable.layer w.environment])

end Settings

end ProxySettings
