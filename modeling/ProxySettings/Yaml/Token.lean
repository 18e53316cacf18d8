import ProxySettings.Encoding.Utf8
import ProxySettings.Yaml.Scalar

/-!
# Tokens of YAML

The parts of a text from which its structure is read, and the readers of those that are more than
one character: names of anchors, tags and directives.
-/

namespace ProxySettings.Yaml

/-- A part of a text. Starts and ends of blocks come from indentation; a key is a part of its own
before the node that is the key. -/
inductive Token where
  | versionDirective (major minor : Nat)
  | tagDirective (handle start : String)
  | documentStart
  | documentEnd
  | blockSequenceStart
  | blockMappingStart
  | blockEnd
  | flowSequenceStart
  | flowSequenceEnd
  | flowMappingStart
  | flowMappingEnd
  | flowEntry
  | blockEntry
  | key
  | value
  | alias (name : String)
  | anchor (name : String)
  | tag (handle suffix : String)
  | scalar (text : String) (isPlain : Bool)
  deriving Repr, DecidableEq

/-! ## Names -/

/-- Read the name of an anchor or an alias, from its mark on. -/
def readName (p : Cursor) : Option (String × Cursor) :=
  let (name, p) := p.next.span isWordChar
  if name.isEmpty then none
  else if p.isGapAt 0 || p.head?.any "?:,]\x7d%@\x60".toList.contains then
    some (String.ofList name, p)
  else none

/-! ## Tags -/

private def isUriChar (isVerbatim : Bool) (c : Char) : Bool :=
  isWordChar c || ";/?:@&=+$.%!~*\x27()".toList.contains c ||
    (isVerbatim && ",[]".toList.contains c)

/-- The bytes of a tag's text, in which a percent sign and two digits stand for a byte. -/
private def uriBytes? : List Char → Option (List UInt8)
  | [] => some []
  | '%' :: a :: b :: rest => do
    return (← Text.number? 16 [a, b]).toUInt8 :: (← uriBytes? rest)
  | '%' :: _ => none
  | c :: rest => (Utf8.encode c.toString ++ ·) <$> uriBytes? rest

/-- Read the text of a tag; it may be empty only where something precedes it. -/
private def readUri (isVerbatim mayBeEmpty : Bool) (p : Cursor) : Option (String × Cursor) := do
  let (cs, p) := p.span (isUriChar isVerbatim)
  if cs.isEmpty && !mayBeEmpty then none
  else return (← Utf8.decode? (← uriBytes? cs), p)

/-- Read an exclamation mark, a name after it and possibly a second mark. -/
private def readHandle (p : Cursor) : Option (List Char × Cursor) :=
  if !p.isAt '!' then none
  else
    let (name, p) := p.next.span isWordChar
    if p.isAt '!' then some ('!' :: name ++ ['!'], p.next) else some ('!' :: name, p)

/-- Read a tag: its handle, which a directive may define, and what follows the handle. A verbatim
tag and a lone mark have no handle. -/
def readTag (inFlow : Bool) (p : Cursor) : Option (Token × Cursor) := do
  let (token, p) ←
    if p.next.isAt '<' then do
      let (uri, p) ← readUri true false (p.skip 2)
      if p.isAt '>' then some (Token.tag "" uri, p.next) else none
    else do
      let (handle, p) ← readHandle p
      if 1 < handle.length ∧ handle.getLast? = some '!' then do
        let (suffix, p) ← readUri false false p
        some (Token.tag (String.ofList handle) suffix, p)
      else do
        let (uri, p) ← readUri false true p
        let suffix := String.ofList (handle.drop 1) ++ uri
        some (if suffix.isEmpty then Token.tag "" "!" else Token.tag "!" suffix, p)
  if p.isGapAt 0 || (inFlow && p.isAt ',') then return (token, p) else none

/-! ## Directives -/

/-- The number of digits of a version that count. -/
private def maxVersionDigits : Nat := 9

private def readVersionNumber (p : Cursor) : Option (Nat × Cursor) := do
  let (ds, p) := p.span Text.isDigit
  if maxVersionDigits < ds.length then none
  else return (← Text.number? 10 ds, p)

private def readVersion (p : Cursor) : Option (Token × Cursor) := do
  let (major, p) ← readVersionNumber p.skipBlanks
  if !p.isAt '.' then none
  let (minor, p) ← readVersionNumber p.next
  return (.versionDirective major minor, p)

private def readTagDirective (p : Cursor) : Option (Token × Cursor) := do
  let (handle, p) ← readHandle p.skipBlanks
  if 1 < handle.length ∧ handle.getLast? ≠ some '!' then none
  if !p.head?.any isBlank then none
  let (start, p) ← readUri true false p.skipBlanks
  if !p.isGapAt 0 then none
  return (.tagDirective (String.ofList handle) start, p)

/-- Read a directive and the rest of its line, from its percent sign on. -/
def readDirective (p : Cursor) : Option (Token × Cursor) := do
  let (name, p) := p.next.span isWordChar
  if !p.isGapAt 0 then none
  let (token, p) ←
    if name = "YAML".toList then readVersion p
    else if name = "TAG".toList then readTagDirective p
    else none
  let p := p.skipComment
  if p.isLineEnd then return (token, p.nextLine.2) else none

end ProxySettings.Yaml
