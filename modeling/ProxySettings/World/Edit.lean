import ProxySettings.World.Basic

/-!
# Changes to the world

Directories, files and links are made with the directories above them, and removed with what is
below them. A change that the tree does not admit, such as a file below a file, does nothing. Who
works in a directory that is removed has no working directory any more.
-/

namespace ProxySettings.World

private def set (w : World) (place : Place) (entry : Entry) : World :=
  { w with entries := (w.entries.filter (·.1 != place)) ++ [(place, entry)] }

/-- Make a directory and those above it, following links. -/
private def makeDirFrom (w : World) (place : Place) : List String → Option (World × Place)
  | [] => some (w, place)
  | name :: rest =>
    match w.walk true maxLinks place [name] with
    | .ok (next, some .dir) => makeDirFrom w next rest
    | .ok (next, none) => makeDirFrom (w.set next .dir) next rest
    | _ => none

/-- Make the directory at a path below a place. -/
def makeDir (w : World) (base : Place) (path : String) : World :=
  ((makeDirFrom w base (components path)).map (·.1)).getD w

private def inParent (w : World) (base : Place) (path : String)
    (change : World → Place → String → World) : World :=
  let names := (components path).filter (· ≠ "")
  match names.getLast? with
  | none => w
  | some name =>
    match makeDirFrom w base names.dropLast with
    | some (w, parent) => change w parent name
    | none => w

/-- Write the file at a path below a place; a link there is followed. -/
def writeFile (w : World) (base : Place) (path : String) (bytes : List UInt8) : World :=
  inParent w base path fun w parent name ↦
    match w.walk true maxLinks parent [name] with
    | .ok (_, some .dir) => w
    | .ok (place, _) => w.set place (.file bytes)
    | .error _ => w

/-- Make a symbolic link at a path below a place, unless something is there. -/
def makeLink (w : World) (base : Place) (path target : String) : World :=
  inParent w base path fun w parent name ↦
    match w.walk false maxLinks parent [name] with
    | .ok (place, none) => w.set place (.link target)
    | _ => w

/-- The working directory after the removal of a place and of everything below it. -/
private def workDirWithout (w : World) (place : Place) : Except IoFault String := do
  let dir ← w.workDir
  if place.isPrefixOf ((components dir).filter (· ≠ "")) then .error .notFound else return dir

/-- Remove what is at a path below a place, and everything below it; a link itself is removed. -/
def remove (w : World) (base : Place) (path : String) : World :=
  match w.walk false maxLinks base ((components path).filter (· ≠ "")) with
  | .ok (place, some _) =>
    { w with
      entries := w.entries.filter fun e ↦ !place.isPrefixOf e.1
      workDir := w.workDirWithout place }
  | _ => w

/-- Replace the variables whose names the test selects. -/
def setVariables (w : World) (replaced : String → Bool) (values : List (String × String)) :
    World :=
  { w with environment := w.environment.filter (!replaced ·.1) ++ values }

end ProxySettings.World
