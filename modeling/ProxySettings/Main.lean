import ProxySettings.Command

/-!
# The program

The outer layer: it reads the part of the machine's files at which a command looks into a world,
runs the command in that world, and prints what it reports.
-/

namespace ProxySettings.Main

/-- A place as a path. -/
def pathOf (place : World.Place) : String := "/" ++ "/".intercalate place

/-- The place of a path without links. -/
def placeOf (path : String) : World.Place := (World.components path).filter (· ≠ "")

/-- Add what is at a place, and the directories above it. -/
def add (w : World) (place : World.Place) (entry : World.Entry) : World :=
  let above := (List.range place.length).map fun n ↦ (place.take n, World.Entry.dir)
  { w with entries := (place, entry) :: (above ++ w.entries) }

/-- Add what the machine has at the end of each part of a path, seen from a place. -/
def survey (w : World) (place : World.Place) : List String → IO World
  | [] => return w
  | name :: rest => do
    if name = "" ∨ name = "." then survey w place rest
    else if name = ".." then survey w place.dropLast rest
    else
      let next := place ++ [name]
      match ← (IO.FS.realPath (pathOf next)).toBaseIO with
      | .error _ => return w
      | .ok path =>
        let real := placeOf path.toString
        let w := if real = next then w else add w next (.link path.toString)
        match ← path.metadata.toBaseIO with
        | .error _ => return w
        | .ok found =>
          match found.type with
          | .dir => survey (add w real .dir) real rest
          | .file => return add w real (.file (← IO.FS.readBinFile path).toList)
          | _ => return w

/-- Add what the machine has along each of some paths. -/
def surveyAll (w : World) (paths : List String) : IO World :=
  paths.foldlM (fun w path ↦
    match w.origin path with
    | .ok place => survey w place (World.components path)
    | .error _ => return w) w

/-- The variables with which the program was started. -/
def environment : IO (List (String × String)) := do
  let bytes ← IO.FS.readBinFile "/proc/self/environ"
  let texts := (bytes.toList.splitOn 0).filterMap Utf8.decode?
  return texts.filterMap (Text.cut '=')

/-- The home directory in the account of the user who runs the program. -/
def accountHome : IO (Option String) := do
  let user := (← IO.FS.lines "/proc/self/status").toList.findSome? fun line ↦
    match line.splitOn "\t" with
    | "Uid:" :: user :: _ => some user
    | _ => none
  return (← IO.FS.lines "/etc/passwd").toList.findSome? fun line ↦
    match line.splitOn ":" with
    | [_, _, id, _, _, home, _] => if some id = user ∧ home ≠ "" then some home else none
    | _ => none

/-- The home directory that the variables name, or else that of the account. -/
def home : IO (Option String) := do
  match ← IO.getEnv "HOME" with
  | some dir => if dir.isEmpty then lookUp else return some dir
  | none => lookUp
where
  lookUp : IO (Option String) := do
    match ← accountHome.toBaseIO with
    | .ok dir => return dir
    | .error _ => return none

/-- The refusal of the system to name the working directory. -/
def faultOf : IO.Error → World.IoFault
  | .permissionDenied .. => .denied
  | _ => .notFound

/-- The world before any path is looked at. -/
def start : IO World := do
  match ← IO.currentDir.toBaseIO with
  | .ok dir => return add ⟨[], .ok dir.toString, ← home, ← environment⟩ (placeOf dir.toString) .dir
  | .error e => return ⟨[], .error (faultOf e), ← home, ← environment⟩

/-- The words for what is wrong with patterns and documents. -/
def wording : Wording where
  pattern _ := "the pattern cannot be read"
  document := "the documents cannot be read"

/-- Print the events that are reported. -/
def printEvents (c : Command) (events : List Event) : IO Unit :=
  (c.reported events).forM fun e ↦ IO.println e.render

/-- Check settings, and report what they resolve to. -/
def check (c : Command) (w : World) (s : Settings) : IO UInt32 := do
  let checked := Check.run (← surveyAll w (Command.targets w s)) s
  printEvents c checked.events
  match checked.result with
  | .ok _ => return 0
  | .error e =>
    IO.println ("ERROR " ++ e.message wording)
    IO.eprintln ("Error: " ++ e.message wording)
    return 1

/-- Run a command. -/
def run (c : Command) : IO UInt32 := do
  let start ← start
  let w ← surveyAll start (c.sources start)
  let loaded := c.load w
  printEvents c loaded.events
  match loaded.result, c.task.getD .check with
  | .error e, _ =>
    IO.eprintln (c.loadFailure wording e)
    return 1
  | .ok s, .check => check c w s
  | .ok s, .listing =>
    IO.println s.shown
    return 0

end ProxySettings.Main

/-- Run the command of the command line. -/
def main (args : List String) : IO UInt32 := do
  match ProxySettings.Command.empty.read args with
  | .ok c => ProxySettings.Main.run c
  | .error .help =>
    IO.println ProxySettings.UsageFault.help.message
    return 0
  | .error fault =>
    IO.eprintln fault.message
    return 2
