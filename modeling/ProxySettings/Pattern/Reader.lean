import ProxySettings.Pattern.Bracket

/-!
# Reading patterns

The reader turns the text of a pattern into an expression. Groups are kept on a stack, so a round of
the reader consumes one character, escape, class, operator or group mark. Texts that nest deeper
than `nestingLimit` are refused. In the proxy `HostMatcher` compiles such patterns.
-/

namespace ProxySettings.Pattern

open Unicode (CharSet)

/-- One item of a sequence with the nesting depth of its text. Flags are items too, but they cannot
be repeated. -/
structure Piece where
  expr : Expr Atom
  depth : Nat
  repeatable : Bool

/-- An open group, or the whole pattern: its finished branches and its current one, last item first;
whether it captures; and the flags to go back to when it closes. -/
structure OpenGroup where
  branches : List Piece
  items : List Piece
  captures : Bool
  restored : Flags

namespace OpenGroup

def push (g : OpenGroup) (p : Piece) : OpenGroup := { g with items := p :: g.items }

def atom (g : OpenGroup) (a : Atom) : OpenGroup := g.push ⟨.atom a, 0, true⟩

def deepest (ps : List Piece) : Nat := (ps.map Piece.depth).foldl max 0

/-- Several pieces as one; joining two or more adds one level. -/
def join (build : List (Expr Atom) → Expr Atom) (ps : List Piece) : Piece :=
  ⟨build (ps.reverse.map Piece.expr), (if ps.length < 2 then 0 else 1) + deepest ps, true⟩

def sequence (g : OpenGroup) : Piece := join .seqs g.items

def choice (g : OpenGroup) : Piece := join .alts (g.sequence :: g.branches)

def branch (g : OpenGroup) : OpenGroup :=
  { g with branches := g.sequence :: g.branches, items := [] }

/-- The closed group. -/
def close (g : OpenGroup) : Piece :=
  let inner := g.choice
  ⟨if g.captures then .capture inner.expr else inner.expr, 1 + inner.depth, true⟩

/-- Repeat the last item; there has to be one, and flags do not count. -/
def «repeat» (g : OpenGroup) (min : Nat) (max : Option Nat) : Option OpenGroup :=
  match g.items with
  | p :: before =>
    if p.repeatable then
      some { g with items := ⟨.rep p.expr min max, 1 + p.depth, true⟩ :: before }
    else none
  | [] => none

end OpenGroup

/-- The reader's state: the flags, the current group, the groups around it, and the names given to
groups so far. -/
structure State where
  flags : Flags
  current : OpenGroup
  outer : List OpenGroup
  names : List (List Char)

/-- The largest count of a repetition. -/
def maxCount : Nat := UInt32.size - 1

/-- A decimal count, with blanks around it; none if there are no digits. -/
private def count (f : Flags) (cs : List Char) : Option (Nat × List Char) :=
  let (digits, rest) := spanCounting Text.isDigit f.spaced false (cs.dropWhile Text.isBlank)
  match Text.number? 10 digits with
  | some n => if n ≤ maxCount then some (n, f.skip (rest.dropWhile Text.isBlank)) else none
  | none => none

/-- The bounds of a counted repetition; the text starts after its brace. -/
private def counts (f : Flags) (cs : List Char) : Option (Nat × Option Nat × List Char) := do
  let (min, rest) ← count f (f.skip cs)
  match rest with
  | '\x7d' :: rest => return (min, some min, rest)
  | ',' :: rest =>
    match f.skip rest with
    | '\x7d' :: rest => return (min, none, rest)
    | rest =>
      let (max, rest) ← count f rest
      match rest with
      | '\x7d' :: rest => if min ≤ max then return (min, some max, rest) else none
      | _ => none
  | _ => none

/-- Step over the mark of a repetition that prefers few rounds; it changes nothing in what
matches. -/
private def skipReluctant : List Char → List Char
  | '?' :: rest => rest
  | rest => rest

/-- Flag letters up to `stop`, cleared after a hyphen. None twice, and a hyphen needs a letter. -/
def flagLetters (f : Flags) (seen : List Char) (value : Bool) :
    List Char → Option (Flags × Char × List Char × List Char)
  | [] => none
  | c :: rest =>
    if c = ':' ∨ c = ')' then
      if seen.head? = some '-' then none else some (f, c, seen, rest)
    else if seen.contains c then none
    else if c = '-' then flagLetters f (c :: seen) false rest
    else
      match f.assign c value with
      | some f => flagLetters f (c :: seen) value rest
      | none => none

private def isNameStart (c : Char) : Bool :=
  c == '_' || Unicode.Property.alphabetic.contains c

private def isNamePart (c : Char) : Bool :=
  "_.[]".toList.contains c || Unicode.Property.alphabetic.contains c ||
    Unicode.Category.Group.number.set.contains c

/-- A group name, which no earlier group has. -/
def groupName (names : List (List Char)) (cs : List Char) :
    Option (List Char × List Char) :=
  match Text.cutAt '>' cs with
  | some (c :: name, rest) =>
    if isNameStart c && name.all isNamePart && !names.contains (c :: name) then
      some (c :: name, rest)
    else none
  | _ => none

private def isLookAround (cs : List Char) : Bool :=
  ["?=", "?!", "?<=", "?<!"].any (·.toList.isPrefixOf cs)

/-- Open a group with new flags. -/
def State.open (s : State) (captures : Bool) (flags : Flags) : State :=
  { s with
    flags
    current := ⟨[], [], captures, s.flags⟩
    outer := s.current :: s.outer }

/-- Read the opening of a group, or a setting of flags; the text starts after the parenthesis. -/
def State.group (s : State) (cs : List Char) : Option (State × List Char) :=
  let cs := s.flags.skip cs
  let named (cs : List Char) : Option (State × List Char) := do
    let (name, rest) ← groupName s.names cs
    return ({ s with names := name :: s.names }.open true s.flags, rest)
  if isLookAround cs then none
  else
    match cs with
    | '?' :: 'P' :: '<' :: rest => named rest
    | '?' :: '<' :: rest => named rest
    | '?' :: rest => do
      let (flags, stop, seen, rest) ← flagLetters s.flags [] true rest
      if stop = ':' then return (s.open false flags, rest)
      else if seen.isEmpty then none
      else return ({ s with flags, current := s.current.push ⟨.empty, 0, false⟩ }, rest)
    | rest => some (s.open true s.flags, rest)

def dotSet (f : Flags) : Option CharSet :=
  if !f.unicode then none
  else if f.dotAll then some .all
  else if f.returns then some (.compl (.union (.single '\n') (.single '\r')))
  else some (.compl (.single '\n'))

def literal (f : Flags) (c : Char) (isByte : Bool) : Option CharSet :=
  if isByte && !f.unicode && 128 ≤ c.toNat then none else some (f.fold (.single c))

def State.atom (s : State) (a : Atom) : State := { s with current := s.current.atom a }

def State.repeat (s : State) (min : Nat) (max : Option Nat) : Option State :=
  (s.current.repeat min max).map fun current ↦ { s with current }

/-- Read one item that starts with `c`. -/
def State.step (s : State) (c : Char) (rest : List Char) : Option (State × List Char) :=
  let f := s.flags
  match c with
  | '(' => s.group rest
  | ')' =>
    match s.outer with
    | [] => none
    | parent :: outer =>
      some ({ s with
        flags := s.current.restored
        current := parent.push s.current.close
        outer }, rest)
  | '|' => some ({ s with current := s.current.branch }, rest)
  | '[' => (bracket f rest).map fun (n, rest) ↦
      ({ s with current := s.current.push ⟨.atom (.char n.set), n.depth, true⟩ }, rest)
  | '?' => (s.repeat 0 (some 1)).map (·, skipReluctant rest)
  | '*' => (s.repeat 0 none).map (·, skipReluctant rest)
  | '+' => (s.repeat 1 none).map (·, skipReluctant rest)
  | '\x7b' => do
    let (min, max, rest) ← counts f rest
    return (← s.repeat min max, skipReluctant (f.skip rest))
  | '\\' => do
    let (e, rest) ← escape f rest
    match e with
    | .char c isByte => return (s.atom (.char (← literal f c isByte)), rest)
    | .set set => return (s.atom (.char set), rest)
    | .look l => return (s.atom (.look l), rest)
  | '.' => (dotSet f).map fun set ↦ (s.atom (.char set), rest)
  | '^' => some (s.atom (.look (if f.perLine then .lineStart f.returns else .textStart)), rest)
  | '$' => some (s.atom (.look (if f.perLine then .lineEnd f.returns else .textEnd)), rest)
  | c => (literal f c false).map fun set ↦ (s.atom (.char set), rest)

/-- Read items to the end. Every round steps over at least one character, so the length of the text
is fuel enough. -/
def State.run : Nat → State → List Char → Option State
  | 0, _, _ => none
  | fuel + 1, s, cs =>
    match s.flags.skip cs with
    | [] => some s
    | c :: rest =>
      match s.step c rest with
      | some (s, rest) => State.run fuel s rest
      | none => none

/-- The deepest nesting of a pattern. -/
def nestingLimit : Nat := 250

/-- The expression of a pattern's text. -/
def read? (text : List Char) : Option (Expr Atom) := do
  let s ← State.run (text.length + 1) ⟨.initial, ⟨[], [], false, .initial⟩, [], []⟩ text
  guard s.outer.isEmpty
  let whole := s.current.choice
  guard (whole.depth ≤ nestingLimit)
  return whole.expr

end ProxySettings.Pattern
