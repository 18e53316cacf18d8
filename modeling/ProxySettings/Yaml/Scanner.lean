import ProxySettings.Yaml.Token

/-!
# Reading the tokens of a YAML text

A text is read from left to right. Outside brackets indentation opens and closes blocks. Whether a
node is a key shows only in the colon after it: then the key's token is inserted before the node,
and before that the start of a block if the key is indented deeper than the block around it.
-/

namespace ProxySettings.Yaml

/-- The longest text that may be a key, in characters. -/
def maxKeyLength : Nat := 1024

/-- A place where a key may have started: where it is, and how many tokens precede it. A key that
stands where a block continues has to be one. -/
private structure KeyStart where
  isRequired : Bool
  tokens : Nat
  index : Nat
  line : Nat
  column : Nat

/-- The state of the reader: the tokens so far, the columns of the open blocks with the innermost
first, and for every open bracket and the text around them the place where a key may have started.
-/
private structure Scan where
  place : Cursor
  tokens : Array Token
  blocks : List Nat
  keys : List (Option KeyStart)
  allowsKey : Bool

namespace Scan

/-- The state is inside brackets. -/
private def inFlow (s : Scan) : Bool := 1 < s.keys.length

/-- The column of the innermost block. -/
private def indent? (s : Scan) : Option Nat := s.blocks.head?

/-- The first column beyond the innermost block. -/
private def inner (s : Scan) : Nat := (s.indent?.map (· + 1)).getD 0

private def push (s : Scan) (t : Token) : Scan := { s with tokens := s.tokens.push t }

/-- Go to a place after a token. -/
private def emit (s : Scan) (t : Token) (p : Cursor) : Scan := { s.push t with place := p }

/-- Close the blocks that are indented to a column or deeper, outside brackets. -/
private def closeFrom (s : Scan) (column : Nat) : Scan :=
  if s.inFlow then s
  else
    let open_ := s.blocks.dropWhile (column ≤ ·)
    { s with
      blocks := open_
      tokens := s.tokens ++ Array.replicate (s.blocks.length - open_.length) .blockEnd }

/-- Open a block at a column that is deeper than the blocks around it, outside brackets. The token
that starts it goes before those from `place` on. -/
private def openAt (s : Scan) (column place : Nat) (t : Token) : Scan :=
  if s.inFlow || s.indent?.any (column ≤ ·) then s
  else { s with blocks := column :: s.blocks, tokens := s.tokens.insertIdxIfInBounds place t }

/-- Forget the place where a key may have started; a required key is missed. -/
private def dropKey (s : Scan) : Option Scan :=
  match s.keys with
  | some k :: keys => if k.isRequired then none else some { s with keys := none :: keys }
  | _ => some s

/-- Note that a key may start here. -/
private def noteKey (s : Scan) : Option Scan :=
  if !s.allowsKey then some s
  else do
    let s ← s.dropKey
    let p := s.place
    let key : KeyStart :=
      ⟨!s.inFlow && s.indent? == some p.column, s.tokens.size, p.index, p.line, p.column⟩
    return { s with keys := some key :: s.keys.drop 1 }

/-- The key that ends here: it is on this line and not too long. A required key has to be one. -/
private def endedKey (s : Scan) : Option (Option KeyStart) :=
  match s.keys.head?.join with
  | none => some none
  | some k =>
    if k.line < s.place.line || k.index + maxKeyLength < s.place.index then
      if k.isRequired then none else some none
    else some (some k)

/-! ## Tokens -/

private def endDocument (s : Scan) : Option Scan := do
  let s ← (s.closeFrom 0).dropKey
  return { s with allowsKey := false }

private def marker (s : Scan) (t : Token) : Option Scan := do
  return (← s.endDocument).emit t (s.place.skip 3)

private def directive (s : Scan) : Option Scan := do
  let s ← s.endDocument
  let (t, p) ← readDirective s.place
  return s.emit t p

private def openFlow (s : Scan) (t : Token) : Option Scan := do
  let s ← s.noteKey
  return { s.emit t s.place.next with keys := none :: s.keys, allowsKey := true }

private def closeFlow (s : Scan) (t : Token) : Option Scan := do
  let s ← s.dropKey
  let keys := if s.inFlow then s.keys.drop 1 else s.keys
  return { s.emit t s.place.next with keys := keys, allowsKey := false }

private def flowEntry (s : Scan) : Option Scan := do
  let s ← s.dropKey
  return { s.emit .flowEntry s.place.next with allowsKey := true }

private def blockEntry (s : Scan) : Option Scan := do
  if !s.inFlow && !s.allowsKey then none
  let s ← (s.openAt s.place.column s.tokens.size .blockSequenceStart).dropKey
  return { s.emit .blockEntry s.place.next with allowsKey := true }

private def key (s : Scan) : Option Scan := do
  if !s.inFlow && !s.allowsKey then none
  let s ← (s.openAt s.place.column s.tokens.size .blockMappingStart).dropKey
  return { s.emit .key s.place.next with allowsKey := !s.inFlow }

private def value (s : Scan) : Option Scan := do
  match ← s.endedKey with
  | some k =>
    let s := { s with tokens := s.tokens.insertIdxIfInBounds k.tokens .key }
    let s := s.openAt k.column k.tokens .blockMappingStart
    let s := { s with keys := none :: s.keys.drop 1 }
    return { s.emit .value s.place.next with allowsKey := false }
  | none =>
    if !s.inFlow && !s.allowsKey then none
    let s := s.openAt s.place.column s.tokens.size .blockMappingStart
    let s := { s with keys := none :: s.keys.drop 1 }
    return { s.emit .value s.place.next with allowsKey := !s.inFlow }

private def name (s : Scan) (make : String → Token) : Option Scan := do
  let s ← s.noteKey
  let (n, p) ← readName s.place
  return { s.emit (make n) p with allowsKey := false }

private def tag (s : Scan) : Option Scan := do
  let s ← s.noteKey
  let (t, p) ← readTag s.inFlow s.place
  return { s.emit t p with allowsKey := false }

private def block (s : Scan) : Option Scan := do
  let s ← s.dropKey
  let (text, p) ← readBlock s.indent? s.place
  return { s.emit (.scalar text false) p with allowsKey := true }

private def quoted (s : Scan) (quote : Char) : Option Scan := do
  let s ← s.noteKey
  let (text, p) ← readQuoted quote s.place
  return { s.emit (.scalar text false) p with allowsKey := false }

private def plain (s : Scan) : Option Scan := do
  let s ← s.noteKey
  let (text, isBroken, p) ← readPlain s.inFlow s.inner s.place
  return { s.emit (.scalar text true) p with allowsKey := isBroken }

/-! ## Steps -/

/-- Pass over spaces, comments and line breaks. Tabs do not indent. -/
private def skipGap : Nat → Scan → Scan
  | 0, s => s
  | fuel + 1, s =>
    let isSpace (c : Char) : Bool := c == ' ' || ((s.inFlow || !s.allowsKey) && c == '\t')
    let p := if s.place.index = 0 ∧ s.place.isAt '\ufeff' then s.place.next else s.place
    let p := (p.span isSpace).2
    let p := if p.isAt '#' then (p.span (!isBreak ·)).2 else p
    if p.head?.any isBreak then
      skipGap fuel { s with place := p.nextLine.2, allowsKey := s.allowsKey || !s.inFlow }
    else { s with place := p }

/-- A plain text may start here, where no other token starts. -/
private def startsPlain (s : Scan) : Bool :=
  let p := s.place
  let isIndicator := p.head?.any "-?:,[]\x7b\x7d#&*!|>\x27\"%@\x60".toList.contains
  (!p.isGapAt 0 && !isIndicator) || (p.isAt '-' && !(p.at? 1).any isBlank) ||
    (!s.inFlow && (p.isAt '?' || p.isAt ':') && !p.isGapAt 1)

/-- Read the token that starts here. -/
private def token (s : Scan) (c : Char) : Option Scan :=
  let p := s.place
  if p.column = 0 ∧ c = '%' then s.directive
  else if p.isMarker '-' then s.marker .documentStart
  else if p.isMarker '.' then s.marker .documentEnd
  else if c = '[' then s.openFlow .flowSequenceStart
  else if c = '\x7b' then s.openFlow .flowMappingStart
  else if c = ']' then s.closeFlow .flowSequenceEnd
  else if c = '\x7d' then s.closeFlow .flowMappingEnd
  else if c = ',' then s.flowEntry
  else if c = '-' ∧ p.isGapAt 1 then s.blockEntry
  else if c = '?' ∧ (s.inFlow ∨ p.isGapAt 1) then s.key
  else if c = ':' ∧ (s.inFlow ∨ p.isGapAt 1) then s.value
  else if c = '*' then s.name .alias
  else if c = '&' then s.name .anchor
  else if c = '!' then s.tag
  else if (c = '|' ∨ c = '>') ∧ !s.inFlow then s.block
  else if c = '\x27' ∨ c = '"' then s.quoted c
  else if s.startsPlain then s.plain
  else none

/-- Read all tokens. -/
private def run : Nat → Scan → Option (Array Token)
  | 0, _ => none
  | fuel + 1, s =>
    let s := skipGap (s.place.rest.length + 1) s
    let s := s.closeFrom (s.place.column + 1)
    match s.place.head? with
    | none => do return (← s.endDocument).tokens
    | some c => do run fuel (← s.token c)

end Scan

/-- The tokens of a text. Every token takes a character. -/
def tokens? (cs : List Char) : Option (List Token) :=
  if cs.all isAllowed then
    (Scan.run (cs.length + 1) ⟨.start cs, #[], [], [none], true⟩).map Array.toList
  else none

end ProxySettings.Yaml
