import ProxySettings.Pattern.Escape

/-!
# Bracketed classes

A bracketed class lists characters, ranges and classes, nests, and combines what it lists by
intersection, difference and symmetric difference. The reader also measures how deep a class nests.
-/

namespace ProxySettings.Pattern

open Unicode (CharSet Run)

/-- A set read so far and the nesting depth of its text. -/
structure Nested where
  set : CharSet
  depth : Nat

/-- The operations between two parts of a class. -/
inductive SetOp where
  | inter | diff | symmDiff

/-- The combination of two parts, each folded on its own. -/
def SetOp.apply (op : SetOp) (f : Flags) (left right : Nested) : Nested :=
  let combine := match op with
    | inter => CharSet.inter
    | diff => CharSet.diff
    | symmDiff => CharSet.symmDiff
  ⟨combine (f.fold left.set) (f.fold right.set), 1 + max left.depth right.depth⟩

/-- An open class: its complement mark, the part before its last operator, and the members since. -/
structure OpenClass where
  negated : Bool
  left : Option (Nested × SetOp)
  members : List Nested

namespace OpenClass

private def add (o : OpenClass) (n : Nested) : OpenClass := { o with members := n :: o.members }

/-- All members since the last operator as one part. -/
private def part (o : OpenClass) : Nested :=
  let depth := (o.members.map Nested.depth).foldl max 0
  ⟨.unions (o.members.reverse.map Nested.set),
    if o.members.length < 2 then depth else 1 + depth⟩

private def whole (o : OpenClass) (f : Flags) : Nested :=
  match o.left with
  | none => o.part
  | some (left, op) => op.apply f left o.part

private def operator (o : OpenClass) (f : Flags) (op : SetOp) : OpenClass :=
  { o with left := some (o.whole f, op), members := [] }

def close (o : OpenClass) (f : Flags) : Option Nested :=
  let whole := o.whole f
  (f.close o.negated whole.set).map fun set ↦ ⟨set, 1 + whole.depth⟩

end OpenClass

private def namedClasses : List (String × List Run) := [
  ("alnum", [.between 48 57, .between 65 90, .between 97 122]),
  ("alpha", [.between 65 90, .between 97 122]),
  ("ascii", [.between 0 127]),
  ("blank", [.between 9 9, .between 32 32]),
  ("cntrl", [.between 0 31, .between 127 127]),
  ("digit", [.between 48 57]),
  ("graph", [.between 33 126]),
  ("lower", [.between 97 122]),
  ("print", [.between 32 126]),
  ("punct", [.between 33 47, .between 58 64, .between 91 96, .between 123 126]),
  ("space", [.between 9 13, .between 32 32]),
  ("upper", [.between 65 90]),
  ("word", [.between 48 57, .between 65 90, .between 95 95, .between 97 122]),
  ("xdigit", [.between 48 57, .between 65 70, .between 97 102])]

/-- A named ASCII class such as `[:alpha:]`; the text starts after its bracket. -/
private def namedClass (cs : List Char) : Option (Bool × List Run × List Char) :=
  let named (negated : Bool) (cs : List Char) : Option (Bool × List Run × List Char) :=
    match Text.cutAt ':' cs with
    | some (name, ']' :: rest) =>
      (namedClasses.find? (·.1.toList == name)).map fun row ↦ (negated, row.2, rest)
    | _ => none
  match cs with
  | ':' :: '^' :: rest => named true rest
  | ':' :: rest => named false rest
  | _ => none

/-- The start of a class after its bracket: a complement mark, hyphens, and a closing bracket that
stands for itself because nothing precedes it. -/
private def openClass (f : Flags) (cs : List Char) : Option (OpenClass × List Char) :=
  let (negated, cs) := match f.skip cs with
    | '^' :: rest => (true, f.skip rest)
    | cs => (false, cs)
  let hyphen : Nested := ⟨.single '-', 0⟩
  let hyphens := spanCounting (· == '-') f.spaced false cs
  match hyphens.1, hyphens.2 with
  | _, [] => none
  | [], ']' :: rest =>
    match f.skip rest with
    | [] => none
    | rest => some (⟨negated, none, [⟨.single ']', 0⟩]⟩, rest)
  | taken, rest => some (⟨negated, none, taken.map fun _ ↦ hyphen⟩, rest)

/-- One member's first character, or the class that it names. -/
private def member (f : Flags) (cs : List Char) : Option (Escape × List Char) :=
  match cs with
  | [] => none
  | '\\' :: rest => escape f rest
  | c :: rest => some (.char c false, rest)

/-- A character that a class may list, or that may bound a range. -/
private def bound (f : Flags) : Escape → Option Char
  | .char c _ => if f.unicode || c.toNat < 128 then some c else none
  | _ => none

/-- The character after the current one, as far as it decides whether a hyphen makes a range. A
comment's first character counts here. -/
private def peek (f : Flags) (cs : List Char) : Option Char :=
  if f.spaced then
    match cs.dropWhile Text.isBlank with
    | '#' :: rest =>
      match rest.dropWhile Text.isBlank with
      | [] => cs.head?
      | c :: _ => some c
    | [] => cs.head?
    | c :: _ => some c
  else cs.head?

/-- A character, a class, or a range of characters. -/
private def item (f : Flags) (cs : List Char) : Option (CharSet × List Char) := do
  let (first, rest) ← member f cs
  let single : Option CharSet := match first with
    | .char .. => (bound f first).map CharSet.single
    | .set s => some s
    | .look _ => none
  match f.skip rest with
  | [] => none
  | '-' :: more =>
    let next := peek f more
    if next = some ']' ∨ next = some '-' then return (← single, '-' :: more)
    else
      match f.skip more with
      | [] => none
      | more =>
        let (last, rest) ← member f more
        let lo ← bound f first
        let hi ← bound f last
        if lo ≤ hi then return (.range lo hi, rest) else none
  | rest => return (← single, rest)

/-- Read classes until the outermost one closes. Every round steps over at least one character, so
the length of the text is fuel enough. -/
def classes (f : Flags) : Nat → OpenClass → List OpenClass → List Char →
    Option (Nested × List Char)
  | 0, _, _, _ => none
  | fuel + 1, current, outer, cs =>
    match f.skip cs with
    | [] => none
    | '[' :: rest =>
      match namedClass rest with
      | some (negated, runs, rest) =>
        match f.close negated (.runs runs) with
        | some set => classes f fuel (current.add ⟨set, 0⟩) outer rest
        | none => none
      | none =>
        match openClass f rest with
        | some (inner, rest) => classes f fuel inner (current :: outer) rest
        | none => none
    | ']' :: rest =>
      match current.close f, outer with
      | none, _ => none
      | some nested, [] => some (nested, rest)
      | some nested, parent :: outer => classes f fuel (parent.add nested) outer rest
    | '&' :: '&' :: rest => classes f fuel (current.operator f .inter) outer rest
    | '-' :: '-' :: rest => classes f fuel (current.operator f .diff) outer rest
    | '~' :: '~' :: rest => classes f fuel (current.operator f .symmDiff) outer rest
    | cs =>
      match item f cs with
      | some (set, rest) => classes f fuel (current.add ⟨set, 0⟩) outer rest
      | none => none

/-- Read a bracketed class; the text starts after its bracket. -/
def bracket (f : Flags) (cs : List Char) : Option (Nested × List Char) := do
  let (first, rest) ← openClass f cs
  classes f (cs.length + 1) first [] rest

end ProxySettings.Pattern
