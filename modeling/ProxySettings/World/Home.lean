import ProxySettings.Error

/-!
# Paths that users write

A path is expanded in the home directory, and a relative one is anchored in the working directory.
Either is refused if it needs a directory that the system does not name. In the proxy these are
`expand_user` and `absolute`.
-/

namespace ProxySettings.World

/-- The user's home directory. -/
def homeDir (w : World) : Except ConfigError String :=
  match w.home with
  | some home => .ok home
  | none => .error .noHomeDir

/-- The home directory in place of a leading `~`, if the path is `~` or starts with `~/`. Any other
path stays (`expand_user`). -/
def expandUser (w : World) (path : String) : Except ConfigError String :=
  match path.toList with
  | ['~'] => w.homeDir
  | '~' :: '/' :: rest => w.homeDir.map fun home ↦ join home (String.ofList rest)
  | _ => .ok path

/-- An expanded path, anchored in the working directory if it is relative. -/
def absolute (w : World) (path : String) : Except ConfigError String := do
  let path ← w.expandUser path
  if isAbsolute path then return path
  else return join (← w.workDir.mapError .io) path

end ProxySettings.World
