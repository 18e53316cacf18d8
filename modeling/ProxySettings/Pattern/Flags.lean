import ProxySettings.Pattern.Expr
import ProxySettings.Text.Blank
import ProxySettings.Text.Ascii

/-!
# Pattern flags and layout

Flags change how the text after them is read. With the flag `spaced`, blanks and comments (from `#`
to the end of the line) do not count, and the readers here step over them.
-/

namespace ProxySettings.Pattern

open Unicode (CharSet)

/-- The flags in force at a place of a pattern. -/
structure Flags where
  /-- Letters stand for all characters equal to them up to case. -/
  anyCase : Bool
  /-- `^` and `$` look for lines instead of the whole text. -/
  perLine : Bool
  /-- A dot takes line ends too. -/
  dotAll : Bool
  /-- A carriage return ends a line too. -/
  returns : Bool
  /-- Classes range over all characters instead of ASCII. -/
  unicode : Bool
  /-- Blanks and comments do not count. -/
  spaced : Bool
  deriving Repr, DecidableEq

namespace Flags

/-- The flags at the start of a host pattern: letters of either case, all characters. -/
def initial : Flags := ⟨true, false, false, false, true, false⟩

/-- Set or clear the flag of a letter. Greed does not change what matches, so `U` changes
nothing. -/
def assign (f : Flags) (letter : Char) (value : Bool) : Option Flags :=
  match letter with
  | 'i' => some { f with anyCase := value }
  | 'm' => some { f with perLine := value }
  | 's' => some { f with dotAll := value }
  | 'R' => some { f with returns := value }
  | 'u' => some { f with unicode := value }
  | 'x' => some { f with spaced := value }
  | 'U' => some f
  | _ => none

/-- A set of characters, closed under case if the flags ask for it. -/
def fold (f : Flags) (set : CharSet) : CharSet :=
  if f.anyCase then (if f.unicode then .folded set else .asciiFolded set) else set

private def bytesAbove : List Char := (List.range 128).map fun i ↦ Char.ofNat (128 + i)

/-- A set that may stand alone: without the flag `unicode` it has to be ASCII. -/
def allow (f : Flags) (set : CharSet) : Option CharSet :=
  if f.unicode || !bytesAbove.any set.contains then some set else none

/-- A set folded by the flags, complemented if `negated`, and then allowed. -/
def close (f : Flags) (negated : Bool) (set : CharSet) : Option CharSet :=
  f.allow (if negated then .compl (f.fold set) else f.fold set)

end Flags

/-- Step over what does not count; `inComment` after a `#`. -/
def skipLayout (inComment : Bool) : List Char → List Char
  | [] => []
  | c :: rest =>
    if inComment then skipLayout (c != '\n') rest
    else if Text.isBlank c then skipLayout false rest
    else if c = '#' then skipLayout true rest
    else c :: rest

/-- The next place that counts under the flags. -/
def Flags.skip (f : Flags) (cs : List Char) : List Char :=
  if f.spaced then skipLayout false cs else cs

/-- The characters that count before the first one that fails `p`, and the text from there. -/
def spanCounting (p : Char → Bool) (spaced inComment : Bool) :
    List Char → List Char × List Char
  | [] => ([], [])
  | c :: rest =>
    if inComment then spanCounting p spaced (c != '\n') rest
    else if spaced && Text.isBlank c then spanCounting p spaced false rest
    else if spaced && c == '#' then spanCounting p spaced true rest
    else if p c then
      let (taken, after) := spanCounting p spaced false rest
      (c :: taken, after)
    else ([], c :: rest)

/-- The characters that count before a closing brace, and the text after it. -/
def Flags.braced (f : Flags) (cs : List Char) : Option (List Char × List Char) :=
  match spanCounting (· != '\x7d') f.spaced false cs with
  | (taken, _ :: after) => some (taken, after)
  | (_, []) => none

end ProxySettings.Pattern
