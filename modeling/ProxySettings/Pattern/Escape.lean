import ProxySettings.Pattern.Flags
import ProxySettings.Unicode.Name

/-!
# Escapes of a pattern

A backslash gives a character its plain meaning, names a character, names a class of characters, or
asks for a condition.
-/

namespace ProxySettings.Pattern

open Unicode (CharSet Run)

/-- What one escape stands for. A character written with two hexadecimal digits is a byte, and
beyond ASCII it is no character without the flag `unicode`. -/
inductive Escape where
  | char (c : Char) (isByte : Bool)
  | set (s : CharSet)
  | look (l : Look)

/-- The characters with a meaning of their own in patterns. -/
def isMeta (c : Char) : Bool := "\\.+*?()|[]\x7b\x7d^$#&-~".toList.contains c

private def isPlainEscape (c : Char) : Bool :=
  isMeta c || (c.toNat < 128 && !Text.isAlphanumeric c && c != '<' && c != '>')

private def controlEscape (c : Char) : Option Char :=
  match c with
  | 'a' => some '\x07'
  | 'f' => some '\x0c'
  | 't' => some '\t'
  | 'n' => some '\n'
  | 'r' => some '\r'
  | 'v' => some '\x0b'
  | _ => none

/-- The decimal digits. -/
def digitSet (f : Flags) : CharSet :=
  if f.unicode then Unicode.Category.decimalNumber.set else .range '0' '9'

/-- The blanks. -/
def blankSet (f : Flags) : CharSet :=
  if f.unicode then Unicode.Property.whiteSpace
  else .runs [Run.between 9 13, Run.between 32 32]

/-- ASCII letters, digits and the underscore. -/
def asciiWordSet : CharSet :=
  .runs [Run.between 48 57, Run.between 65 90, Run.between 95 95, Run.between 97 122]

/-- The characters that words are made of. -/
def wordSet : CharSet :=
  .unions [asciiWordSet, Unicode.Property.alphabetic, Unicode.Category.Group.mark.set,
    Unicode.Category.decimalNumber.set, Unicode.Category.connectorPunctuation.set,
    Unicode.Property.joinControl]

def shorthand (f : Flags) (letter : Char) : Option CharSet :=
  match letter with
  | 'd' => some (digitSet f)
  | 's' => some (blankSet f)
  | 'w' => some (if f.unicode then wordSet else asciiWordSet)
  | 'D' => f.allow (.compl (digitSet f))
  | 'S' => f.allow (.compl (blankSet f))
  | 'W' => f.allow (.compl (if f.unicode then wordSet else asciiWordSet))
  | _ => none

private def character (n : Nat) : Option Char :=
  if n.isValidChar then some (Char.ofNat n) else none

/-- A run of exactly `n` hexadecimal digits. -/
private def hexDigits (f : Flags) : Nat → List Char → Option (List Char × List Char)
  | 0, cs => some ([], cs)
  | n + 1, cs =>
    match cs with
    | [] => none
    | c :: rest =>
      if (Text.hexValue? c).isSome then
        (hexDigits f n (f.skip rest)).map fun (digits, after) ↦ (c :: digits, after)
      else none

def hexEscape (f : Flags) (size : Nat) (cs : List Char) : Option (Escape × List Char) :=
  match f.skip cs with
  | '\x7b' :: rest => do
    let (digits, after) ← f.braced rest
    let c ← (Text.number? 16 digits).bind character
    return (.char c false, f.skip after)
  | rest => do
    let (digits, after) ← hexDigits f size rest
    let c ← (Text.number? 16 digits).bind character
    return (.char c (size == 2), after)

private def cutNotEqual : List Char → Option (List Char × List Char)
  | [] => none
  | '!' :: '=' :: rest => some ([], rest)
  | c :: rest => (cutNotEqual rest).map fun (before, after) ↦ (c :: before, after)

/-- The set that a property query denotes. A key and its value are separated by `!=`, `:` or `=`,
which all mean the same. -/
private def query (text : List Char) : Option CharSet :=
  match cutNotEqual text <|> Text.cutAt ':' text <|> Text.cutAt '=' text with
  | some (key, value) => Unicode.valuedSet? key value
  | none => Unicode.namedSet? text

def propertyEscape (f : Flags) (negated : Bool) (cs : List Char) :
    Option (Escape × List Char) := do
  guard f.unicode
  match f.skip cs with
  | [] => none
  | '\x7b' :: rest =>
    let (text, after) ← f.braced rest
    return (.set (← f.close negated (← query text)), after)
  | '\\' :: _ => none
  | c :: rest =>
    let set ← Unicode.namedSet? [c]
    return (.set (← f.close negated set), f.skip rest)

/-- The conditions written as a name in braces after `\b`. A brace that does not open a name belongs
to the repetition that follows. -/
def wordEscape (f : Flags) (cs : List Char) : Option (Escape × List Char) :=
  let look (place : WordPlace) := Escape.look (.word place (!f.unicode))
  match cs with
  | '\x7b' :: rest =>
    match f.skip rest with
    | [] => none
    | c :: more =>
      if c.isAlpha || c == '-' then do
        let (name, after) ← f.braced (c :: more)
        match String.ofList name with
        | "start" => return (look .start, after)
        | "end" => return (look .stop, after)
        | "start-half" => return (look .startHalf, after)
        | "end-half" => return (look .stopHalf, after)
        | _ => none
      else return (look .boundary, cs)
  | _ => return (look .boundary, cs)

/-- Read an escape; the text starts after the backslash. -/
def escape (f : Flags) (cs : List Char) : Option (Escape × List Char) :=
  match cs with
  | [] => none
  | c :: rest =>
    if c = 'x' then hexEscape f 2 rest
    else if c = 'u' then hexEscape f 4 rest
    else if c = 'U' then hexEscape f 8 rest
    else if c = 'p' then propertyEscape f false rest
    else if c = 'P' then propertyEscape f true rest
    else if "dswDSW".toList.contains c then (shorthand f c).map fun s ↦ (.set s, rest)
    else if isPlainEscape c then some (.char c false, rest)
    else
      match controlEscape c with
      | some control => some (.char control false, rest)
      | none =>
        match c with
        | 'A' => some (.look .textStart, rest)
        | 'z' => some (.look .textEnd, rest)
        | 'b' => wordEscape f rest
        | 'B' => some (.look (.word .notBoundary (!f.unicode)), rest)
        | '<' => some (.look (.word .start (!f.unicode)), rest)
        | '>' => some (.look (.word .stop (!f.unicode)), rest)
        | _ => none

end ProxySettings.Pattern
