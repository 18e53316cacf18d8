import ProxySettings.Text.Ascii

/-!
# Places in a YAML text

Indentation is part of the structure of YAML, so a reader keeps its line and column beside the text
that is left. A line break is one or two characters and counts as one.
-/

namespace ProxySettings.Yaml

/-- A character that may stand in a YAML text. -/
def isAllowed (c : Char) : Bool :=
  let n := c.toNat
  n == 9 || n == 10 || n == 13 || (0x20 ≤ n && n ≤ 0x7e) || n == 0x85 ||
    (0xa0 ≤ n && n ≤ 0xfffd) || 0x10000 ≤ n

/-- A space or a tab. -/
def isBlank (c : Char) : Bool := c == ' ' || c == '\t'

/-- A character that breaks a line. -/
def isBreak (c : Char) : Bool :=
  c == '\n' || c == '\r' || c == '\x85' || c == '\u2028' || c == '\u2029'

/-- A character of names: a letter, a digit, a hyphen or an underscore. -/
def isWordChar (c : Char) : Bool := Text.isAlphanumeric c || c == '-' || c == '_'

/-- A character that starts or ends a collection in brackets, or parts its items. -/
def isFlowMark (c : Char) : Bool := ",[]\x7b\x7d".toList.contains c

/-- A place in a text: the characters that are left, how many were before, and where the place is.
-/
structure Cursor where
  rest : List Char
  index : Nat
  line : Nat
  column : Nat
  deriving Repr

namespace Cursor

/-- The start of a text. -/
def start (cs : List Char) : Cursor := ⟨cs, 0, 0, 0⟩

/-- The next character. -/
def head? (p : Cursor) : Option Char := p.rest.head?

/-- The character `n` places on. -/
def at? (p : Cursor) (n : Nat) : Option Char := p.rest[n]?

/-- The next character is the given one. -/
def isAt (p : Cursor) (c : Char) : Bool := p.head? == some c

/-- The text ends, or a character of a class stands `n` places on. -/
private def endsOr (p : Cursor) (n : Nat) (isIn : Char → Bool) : Bool := (p.at? n).all isIn

/-- A blank, a line break or the end stands `n` places on. -/
def isGapAt (p : Cursor) (n : Nat) : Bool := p.endsOr n fun c ↦ isBlank c || isBreak c

/-- A line break or the end comes next. -/
def isLineEnd (p : Cursor) : Bool := p.endsOr 0 isBreak

/-- The place after one character that breaks no line. -/
def next (p : Cursor) : Cursor := ⟨p.rest.drop 1, p.index + 1, p.line, p.column + 1⟩

/-- The place `n` characters on, none of which breaks a line. -/
def skip (n : Nat) (p : Cursor) : Cursor := ⟨p.rest.drop n, p.index + n, p.line, p.column + n⟩

/-- The place after a line break, and the break as one character. -/
def nextLine (p : Cursor) : List Char × Cursor :=
  match p.rest with
  | '\r' :: '\n' :: rest => (['\n'], ⟨rest, p.index + 2, p.line + 1, 0⟩)
  | c :: rest =>
    if isBreak c then
      ([if c = '\u2028' ∨ c = '\u2029' then c else '\n'], ⟨rest, p.index + 1, p.line + 1, 0⟩)
    else ([], p)
  | [] => ([], p)

/-- The place after a run of characters of one line, and the run. -/
def span (p : Cursor) (isIn : Char → Bool) : List Char × Cursor :=
  let run := p.rest.takeWhile isIn
  (run, p.skip run.length)

/-- The place after blanks. -/
def skipBlanks (p : Cursor) : Cursor := (p.span isBlank).2

/-- The place after blanks and a comment. -/
def skipComment (p : Cursor) : Cursor :=
  let p := p.skipBlanks
  if p.isAt '#' then (p.span (!isBreak ·)).2 else p

/-- Three hyphens or three dots stand alone at the start of a line. -/
def isMarker (p : Cursor) (c : Char) : Bool :=
  p.column == 0 && p.rest.take 3 == [c, c, c] && p.isGapAt 3

/-- A document starts or ends here. -/
def isDocumentMarker (p : Cursor) : Bool := p.isMarker '-' || p.isMarker '.'

end Cursor

end ProxySettings.Yaml
