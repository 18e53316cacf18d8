import ProxySettings.Text.Escaped
import ProxySettings.Yaml.Cursor

/-!
# Texts in YAML

A text is written plain, in quotes, or as a block of lines. Line breaks within a text are folded:
one becomes a space, and of several the first one is dropped. Readers take the place where the text
starts and return it with the place after it.
-/

namespace ProxySettings.Yaml

/-- What was passed over between two parts of a text: blanks within a line, or line breaks. -/
private structure Gap where
  blanks : List Char
  first : List Char
  more : List Char
  isBroken : Bool

private def Gap.none : Gap := ⟨[], [], [], false⟩

/-- The text of a gap. -/
private def Gap.text (g : Gap) : List Char :=
  if !g.isBroken then g.blanks
  else if g.first = ['\n'] then (if g.more.isEmpty then [' '] else g.more)
  else g.first ++ g.more

/-- Pass over blanks and line breaks. Tabs may not stand where the indentation of a line is
measured, left of column `indent`. -/
private def gap (indent : Nat) : Nat → Gap → Cursor → Option (Gap × Cursor)
  | 0, g, p => some (g, p)
  | fuel + 1, g, p =>
    match p.head? with
    | none => some (g, p)
    | some c =>
      if isBlank c then
        if g.isBroken then
          if c = '\t' ∧ p.column < indent then none else gap indent fuel g p.next
        else gap indent fuel { g with blanks := g.blanks ++ [c] } p.next
      else if isBreak c then
        let (line, p) := p.nextLine
        if g.isBroken then gap indent fuel { g with more := g.more ++ line } p
        else gap indent fuel ⟨[], line, [], true⟩ p
      else some (g, p)

/-! ## Plain texts -/

/-- A colon in brackets that parts nothing. -/
private def isStrayColon (p : Cursor) : Bool :=
  p.isAt ':' && (p.at? 1).any fun c ↦ c == '?' || isFlowMark c

/-- A plain text ends before this character. -/
private def endsPlain (inFlow : Bool) (p : Cursor) : Bool :=
  (p.isAt ':' && p.isGapAt 1) || (inFlow && p.head?.any isFlowMark)

/-- Read the characters of a plain text up to a gap or the end. -/
private def plainRun (inFlow : Bool) : Nat → List Char → Cursor → Option (List Char × Cursor)
  | 0, before, p => some (before, p)
  | fuel + 1, before, p =>
    if p.isGapAt 0 then some (before, p)
    else if inFlow && isStrayColon p then none
    else if endsPlain inFlow p then some (before, p)
    else plainRun inFlow fuel ((p.head?.toList) ++ before) p.next

/-- Read a plain text; `before` holds its characters so far, the last one first. The answer tells
also whether line breaks follow. -/
private def plainFrom (inFlow : Bool) (indent : Nat) :
    Nat → List Char → Gap → Cursor → Option (List Char × Bool × Cursor)
  | 0, before, g, p => some (before, g.isBroken, p)
  | fuel + 1, before, g, p =>
    if p.isDocumentMarker || p.isAt '#' then some (before, g.isBroken, p)
    else
      match plainRun inFlow (p.rest.length + 1) [] p with
      | none => none
      | some (run, p) =>
        let isBroken := g.isBroken && run.isEmpty
        let before := if run.isEmpty then before else run ++ g.text.reverse ++ before
        if !p.isGapAt 0 || p.rest.isEmpty then some (before, isBroken, p)
        else
          match gap indent (p.rest.length + 1) .none p with
          | none => none
          | some (g, p) =>
            if !inFlow && p.column < indent then some (before, g.isBroken, p)
            else plainFrom inFlow indent fuel before g p

/-- Read a plain text whose further lines are indented to column `indent` at least. -/
def readPlain (inFlow : Bool) (indent : Nat) (p : Cursor) : Option (String × Bool × Cursor) :=
  (plainFrom inFlow indent (p.rest.length + 1) [] .none p).map fun (text, isBroken, p) ↦
    (String.ofList text.reverse, isBroken, p)

/-! ## Texts in quotes -/

private def hexLength? (c : Char) : Option Nat :=
  match c with
  | 'x' => some 2
  | 'u' => some 4
  | 'U' => some 8
  | _ => none

private def escapeLetter? (c : Char) : Option Char :=
  match c with
  | '0' => some '\x00'
  | 'a' => some '\x07'
  | 'v' => some '\x0b'
  | 'e' => some '\x1b'
  | ' ' => some ' '
  | '/' => some '/'
  | '\t' => some '\t'
  | 'N' => some '\x85'
  | '_' => some '\xa0'
  | 'L' => some '\u2028'
  | 'P' => some '\u2029'
  | c => Text.Escaped.letter? c

/-- Read the escape after a backslash. -/
private def escape (p : Cursor) : Option (Char × Cursor) := do
  let c ← p.head?
  match hexLength? c with
  | some n =>
    let digits := p.next.rest.take n
    if digits.length = n then return (← Text.Escaped.codePoint? digits, p.skip (n + 1)) else none
  | none => return (← escapeLetter? c, p.next)

/-- Read the characters of a text in quotes up to a gap or the closing quote. The answer tells also
whether an escaped line break ended the run. -/
private def quotedRun (quote : Char) : Nat → List Char → Cursor → Option (List Char × Bool × Cursor)
  | 0, before, p => some (before, false, p)
  | fuel + 1, before, p =>
    if p.isGapAt 0 then some (before, false, p)
    else if quote = '\x27' ∧ p.isAt quote ∧ p.next.isAt quote then
      quotedRun quote fuel (quote :: before) (p.skip 2)
    else if p.isAt quote then some (before, false, p)
    else if quote = '"' ∧ p.isAt '\\' then
      if p.next.head?.any isBreak then some (before, true, p.next.nextLine.2)
      else
        match escape p.next with
        | some (c, p) => quotedRun quote fuel (c :: before) p
        | none => none
    else quotedRun quote fuel (p.head?.toList ++ before) p.next

private def quotedFrom (quote : Char) : Nat → List Char → Cursor → Option (List Char × Cursor)
  | 0, _, _ => none
  | fuel + 1, before, p =>
    if p.isDocumentMarker || p.rest.isEmpty then none
    else
      match quotedRun quote (p.rest.length + 1) before p with
      | none => none
      | some (before, isJoined, p) =>
        if p.isAt quote then some (before, p.next)
        else
          match gap 0 (p.rest.length + 1) { Gap.none with isBroken := isJoined } p with
          | none => none
          | some (g, p) => quotedFrom quote fuel (g.text.reverse ++ before) p

/-- Read a text in single or double quotes, from its opening quote on. -/
def readQuoted (quote : Char) (p : Cursor) : Option (String × Cursor) :=
  (quotedFrom quote (p.rest.length + 1) [] p.next).map fun (text, p) ↦
    (String.ofList text.reverse, p)

/-! ## Blocks -/

/-- What happens to the line breaks at the end of a block. -/
private inductive Chomp where
  | strip
  | clip
  | keep

/-- Read the signs after the mark of a block: how its end is treated, and how far it is indented. -/
private def blockSigns (p : Cursor) : Option (Chomp × Option Nat × Cursor) :=
  let chomp (p : Cursor) : Option (Chomp × Cursor) :=
    if p.isAt '+' then some (.keep, p.next) else if p.isAt '-' then some (.strip, p.next) else none
  let digit (p : Cursor) : Option Nat := p.head?.bind fun c ↦
    if Text.isDigit c then some (c.toNat - '0'.toNat) else none
  match chomp p with
  | some (c, p) =>
    match digit p with
    | some 0 => none
    | some n => some (c, some n, p.next)
    | none => some (c, none, p)
  | none =>
    match digit p with
    | some 0 => none
    | some n =>
      match chomp p.next with
      | some (c, p) => some (c, some n, p)
      | none => some (.clip, some n, p.next)
    | none => some (.clip, none, p)

/-- Pass over the indentation of the next line with text, and the empty lines before it. The answer
is the largest column reached, and the line breaks. -/
private def blockGap (indent : Option Nat) : Nat → Nat → List Char → Cursor →
    Option (Nat × List Char × Cursor)
  | 0, widest, breaks, p => some (widest, breaks, p)
  | fuel + 1, widest, breaks, p =>
    let isLeft (p : Cursor) : Bool := indent.all (p.column < ·)
    let width := (p.rest.takeWhile (· == ' ')).length
    let p := p.skip (match indent with
      | none => width
      | some n => min width (n - p.column))
    let widest := max widest p.column
    if isLeft p && p.isAt '\t' then none
    else if p.head?.any isBreak then
      let (line, p) := p.nextLine
      blockGap indent fuel widest (breaks ++ line) p
    else some (widest, breaks, p)

/-- Read the lines of a block; `before` holds its characters so far, the last one first. -/
private def blockLines (isLiteral : Bool) (indent : Nat) (chomp : Chomp) :
    Nat → List Char → (wasBlank : Bool) → (lineBreak breaks : List Char) → Cursor →
    Option (List Char × Cursor)
  | 0, _, _, _, _, _ => none
  | fuel + 1, before, wasBlank, lineBreak, breaks, p =>
    if p.column = indent ∧ !p.rest.isEmpty then
      let startsBlank := p.head?.any isBlank
      let joint :=
        if !isLiteral && lineBreak == ['\n'] && !wasBlank && !startsBlank then
          (if breaks.isEmpty then [' '] else []) ++ breaks
        else lineBreak ++ breaks
      let (text, p) := p.span (!isBreak ·)
      let (lineBreak, p) := p.nextLine
      match blockGap (some indent) (p.rest.length + 1) 0 [] p with
      | none => none
      | some (_, breaks, p) =>
        blockLines isLiteral indent chomp fuel (text.reverse ++ joint.reverse ++ before) startsBlank
          lineBreak breaks p
    else
      let tail := match chomp with
        | .strip => []
        | .clip => lineBreak
        | .keep => lineBreak ++ breaks
      some (tail.reverse ++ before, p)

/-- Read a block, from its mark on. Its lines are indented beyond column `base`, which lies one
further left than the first column at the top of a document. -/
def readBlock (base : Option Nat) (p : Cursor) : Option (String × Cursor) := do
  let isLiteral := p.isAt '|'
  let (chomp, increment, p) ← blockSigns p.next
  let p := p.skipComment
  if !p.isLineEnd then none
  let p := p.nextLine.2
  let least := max 1 ((base.map (· + 1)).getD 0)
  let given := increment.map fun n ↦ base.getD 0 + n
  let (widest, breaks, p) ← blockGap given (p.rest.length + 1) 0 [] p
  let indent := given.getD (max widest least)
  let (text, p) ← blockLines isLiteral indent chomp (p.rest.length + 1) [] false [] breaks p
  return (String.ofList text.reverse, p)

end ProxySettings.Yaml
