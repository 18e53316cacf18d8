import ProxySettings.Check
import ProxySettings.Settings.Load

/-!
# The command line

A command loads settings, from a named file or from the files of fixed names, and checks or shows
them. Before it is run, it names every path at which it looks. In the proxy this is `main` with its
`Args`.
-/

namespace ProxySettings

/-- What is done with the settings. -/
inductive Task where
  | check
  | listing
  deriving Repr, DecidableEq

/-- The task of a word on the command line. -/
def Task.ofWord? (word : String) : Option Task :=
  if word = "check" then some .check else if word = "show" then some .listing else none

/-- What a command line asks for, as far as it has been read (`Args`). -/
structure Command where
  task : Option Task
  config : Option String
  isVerbose : Bool
  deriving Repr, DecidableEq

/-- Why a command line is no command. -/
inductive UsageFault where
  | unexpected (argument : String)
  | missingValue (option : String)
  | repeated (option : String)
  | help
  deriving Repr, DecidableEq

/-- The text of a refused command line. -/
def UsageFault.message : UsageFault → String
  | unexpected argument => "error: unexpected argument '" ++ argument ++ "' found"
  | missingValue option => "error: a value is required for '" ++ option ++ "' but none was supplied"
  | repeated option => "error: the argument '" ++ option ++ "' cannot be used multiple times"
  | help =>
    "Usage: [OPTIONS] [check|show]\n\nCommands:\n" ++
      "  check  Build the proxy configuration and report what was resolved (default)\n" ++
      "  show   Print the loaded options as JSON\n\nOptions:\n" ++
      "  -c, --config <FILE>  Path to configuration file (YAML/JSON/TOML)\n" ++
      "  -d, --debug          Enable debug logging\n" ++
      "  -h, --help           Print help"

namespace Command

/-- The command of an empty command line. -/
def empty : Command := ⟨none, none, false⟩

private def configOption : String := "--config <FILE>"

private def setConfig (c : Command) (path : String) : Except UsageFault Command :=
  if c.config.isSome then .error (.repeated configOption) else .ok { c with config := some path }

private def setVerbose (c : Command) : Except UsageFault Command :=
  if c.isVerbose then .error (.repeated "--debug") else .ok { c with isVerbose := true }

private def setTask (c : Command) (word : String) : Except UsageFault Command :=
  match c.task, Task.ofWord? word with
  | none, some task => .ok { c with task := some task }
  | _, _ => .error (.unexpected word)

/-- Read arguments. The value of an option follows it, or is the rest of its argument. -/
def read (c : Command) : List String → Except UsageFault Command
  | [] => .ok c
  | argument :: rest =>
    if argument = "-h" ∨ argument = "--help" then .error .help
    else if argument = "-d" ∨ argument = "--debug" then do (← c.setVerbose).read rest
    else if argument = "-c" ∨ argument = "--config" then
      match rest with
      | path :: rest => do (← c.setConfig path).read rest
      | [] => .error (.missingValue configOption)
    else
      match argument.toList, Text.cut '=' argument with
      | '-' :: 'c' :: path, _ => do (← c.setConfig (String.ofList path)).read rest
      | _, some ("--config", path) => do (← c.setConfig path).read rest
      | _, _ => do (← c.setTask argument).read rest

/-! ## Running -/

/-- Every path at which loading looks. -/
def sources (c : Command) (w : World) : List String :=
  match c.config with
  | some path => [path]
  | none => Settings.defaultPaths w

/-- Load the settings. -/
def load (c : Command) (w : World) : Traced Settings := do
  match c.config with
  | some path =>
    .log .info ("Loading configuration from: " ++ path) []
    Settings.load w path
  | none =>
    .log .info "Loading configuration from default locations" []
    Settings.loadDefault w

/-- The text of a refusal to load. -/
def loadFailure (c : Command) (wording : Wording) (e : ConfigError) : String :=
  let source := match c.config with
    | some path => " from " ++ path
    | none => ""
  "Error: Failed to load configuration" ++ source ++ "\n\nCaused by:\n    " ++
    e.message wording

/-- Every path at which resolving settings looks. -/
def targets (w : World) (s : Settings) : List String :=
  let given := s.clientcerts.toList ++ s.authOptions.htpasswdPath.toList ++
    s.certs.map fun text ↦ (CertSpec.sides text).2
  (w.absolute s.cadir).toOption.toList.map (CertStore.caPath · Config.certBasename) ++
    given.filterMap fun text ↦ (w.expandUser text).toOption

/-- The events that are reported. -/
def reported (c : Command) (events : List Event) : List Event :=
  events.filter fun e ↦ c.isVerbose || e.level != .debug

end Command

end ProxySettings
