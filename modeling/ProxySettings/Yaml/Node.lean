import ProxySettings.Yaml.Token

/-!
# Nodes of YAML

A document is one node: a text, a sequence or a mapping. A node may have a tag and an anchor, and an
alias stands for the node with its anchor. Nodes are read from tokens; a node that is left out is an
empty plain text.
-/

namespace ProxySettings.Yaml

/-- A node. Anchors are numbered. -/
inductive Node where
  | alias (target : Nat)
  | scalar (anchor : Option Nat) (tag : Option String) (text : String) (isPlain : Bool)
  | sequence (anchor : Option Nat) (tag : Option String) (items : List Node)
  | mapping (anchor : Option Nat) (tag : Option String) (pairs : List (Node × Node))
  deriving Repr

/-- The node that is left out. -/
def Node.empty : Node := .scalar none none "" true

/-- The tokens that are left, the prefixes of tags by handle, and the numbers of anchors by name. -/
private structure Rest where
  tokens : List Token
  handles : List (String × String)
  anchors : List (String × Nat)

private abbrev Read := StateT Rest Option

namespace Read

/-- The next token. -/
private def peek : Read (Option Token) := do return (← get).tokens.head?

/-- Pass over a token. -/
private def skip : Read Unit := modify fun r ↦ { r with tokens := r.tokens.drop 1 }

/-- The next token is one of some. -/
private def isNext (ts : List Token) : Read Bool := do return (← peek).any ts.contains

/-- Pass over a token if it is the given one. -/
private def skipIf (t : Token) : Read Bool := do
  if ← isNext [t] then
    skip
    return true
  else return false

/-- Pass over the comma between two items. -/
private def separator : Read Unit := do
  if ← skipIf .flowEntry then return () else failure

/-- Give a name the number of the names so far; a name that is used again gets a new number. -/
private def bind (name : String) : Read Nat := do
  let id := (← get).anchors.length
  modify fun r ↦ { r with anchors := (r.anchors.filter (·.1 != name)) ++ [(name, id)] }
  return id

/-- The tag of a handle and what follows it. -/
private def resolve (handle suffix : String) : Read String := do
  if handle.isEmpty then return suffix
  match (← get).handles.lookup handle with
  | some start => return start ++ suffix
  | none => failure

private def anchor? : Read (Option Nat) := do
  match ← peek with
  | some (.anchor name) =>
    skip
    return some (← bind name)
  | _ => return none

private def tag? : Read (Option String) := do
  match ← peek with
  | some (.tag handle suffix) =>
    skip
    return some (← resolve handle suffix)
  | _ => return none

/-- Read the anchor and the tag of a node, in either order. -/
private def properties : Read (Option Nat × Option String) := do
  match ← anchor? with
  | some id => return (some id, ← tag?)
  | none =>
    match ← tag? with
    | some tag => return (← anchor?, some tag)
    | none => return (none, none)

mutual

/-- Read a node. Blocks may start only where no brackets are open, and a sequence may stand without
indentation of its own below a key. -/
private def node (fuel : Nat) (isBlock isBelowKey : Bool) : Read Node :=
  match fuel with
  | 0 => failure
  | fuel + 1 => do
    match ← peek with
    | some (.alias name) =>
      skip
      match (← get).anchors.lookup name with
      | some id => return .alias id
      | none => failure
    | _ =>
      let (anchor, tag) ← properties
      match ← peek with
      | some (.scalar text isPlain) =>
        skip
        return .scalar anchor (if tag = some "!" then none else tag) text isPlain
      | some .flowSequenceStart =>
        skip
        return .sequence anchor tag (← flowItems fuel true)
      | some .flowMappingStart =>
        skip
        return .mapping anchor tag (← flowPairs fuel true)
      | t =>
        if isBelowKey && t == some .blockEntry then
          return .sequence anchor tag (← looseItems fuel)
        else if isBlock && t == some .blockSequenceStart then
          skip
          return .sequence anchor tag (← blockItems fuel)
        else if isBlock && t == some .blockMappingStart then
          skip
          return .mapping anchor tag (← blockPairs fuel)
        else if anchor.isSome || tag.isSome then return .scalar anchor tag "" true
        else failure

/-- Read a node, or take it as left out before some tokens. -/
private def nodeUnless (fuel : Nat) (isBlock isBelowKey : Bool) (ts : List Token) : Read Node :=
  match fuel with
  | 0 => failure
  | fuel + 1 => do
    if ← isNext ts then return .empty else node fuel isBlock isBelowKey

/-- Read the items of a block sequence and its end. -/
private def blockItems (fuel : Nat) : Read (List Node) :=
  match fuel with
  | 0 => failure
  | fuel + 1 => do
    if ← skipIf .blockEntry then
      let item ← nodeUnless fuel true false [.blockEntry, .blockEnd]
      return item :: (← blockItems fuel)
    else if ← skipIf .blockEnd then return []
    else failure

/-- Read the items of a sequence without indentation of its own. -/
private def looseItems (fuel : Nat) : Read (List Node) :=
  match fuel with
  | 0 => failure
  | fuel + 1 => do
    if ← skipIf .blockEntry then
      let item ← nodeUnless fuel true false [.blockEntry, .key, .value, .blockEnd]
      return item :: (← looseItems fuel)
    else return []

/-- Read the pairs of a block mapping and its end. -/
private def blockPairs (fuel : Nat) : Read (List (Node × Node)) :=
  match fuel with
  | 0 => failure
  | fuel + 1 => do
    if ← skipIf .key then
      let key ← nodeUnless fuel true true [.key, .value, .blockEnd]
      let value ← blockValue fuel
      return (key, value) :: (← blockPairs fuel)
    else if ← skipIf .blockEnd then return []
    else failure

/-- Read the value of a block mapping's key, which may be left out. -/
private def blockValue (fuel : Nat) : Read Node :=
  match fuel with
  | 0 => failure
  | fuel + 1 => do
    if ← skipIf .value then nodeUnless fuel true true [.key, .value, .blockEnd]
    else return .empty

/-- Read the items of a sequence in brackets and its end. A pair among them is a mapping. -/
private def flowItems (fuel : Nat) (isFirst : Bool) : Read (List Node) :=
  match fuel with
  | 0 => failure
  | fuel + 1 => do
    if ← skipIf .flowSequenceEnd then return []
    if !isFirst then separator
    if ← skipIf .key then
      let pair ← flowPair fuel
      return .mapping none none [pair] :: (← flowItems fuel false)
    else if ← skipIf .flowSequenceEnd then return []
    else
      let item ← node fuel false false
      return item :: (← flowItems fuel false)

/-- Read a pair among the items of a sequence. After a key that is left out one token is lost. -/
private def flowPair (fuel : Nat) : Read (Node × Node) :=
  match fuel with
  | 0 => failure
  | fuel + 1 => do
    let key ←
      if ← isNext [.value, .flowEntry, .flowSequenceEnd] then
        skip
        pure Node.empty
      else node fuel false false
    if ← skipIf .value then
      return (key, ← nodeUnless fuel false false [.flowEntry, .flowSequenceEnd])
    else return (key, .empty)

/-- Read the pairs of a mapping in braces and its end. A key may stand without a value. -/
private def flowPairs (fuel : Nat) (isFirst : Bool) : Read (List (Node × Node)) :=
  match fuel with
  | 0 => failure
  | fuel + 1 => do
    if ← skipIf .flowMappingEnd then return []
    if !isFirst then separator
    if ← skipIf .key then
      let key ← nodeUnless fuel false false [.value, .flowEntry, .flowMappingEnd]
      let value ←
        if ← skipIf .value then nodeUnless fuel false false [.flowEntry, .flowMappingEnd]
        else pure Node.empty
      return (key, value) :: (← flowPairs fuel false)
    else if ← skipIf .flowMappingEnd then return []
    else
      let key ← node fuel false false
      return (key, .empty) :: (← flowPairs fuel false)

end

end Read

/-! ## Documents -/

/-- The prefixes of tags that need no directive. -/
def defaultHandles : List (String × String) := [("!", "!"), ("!!", "tag:yaml.org,2002:")]

/-- Read directives: one version at most, and one prefix for a handle. -/
private def directives (hasVersion : Bool) (handles : List (String × String)) :
    List Token → Option (List (String × String) × List Token)
  | .versionDirective major minor :: ts =>
    if hasVersion || major != 1 || !(minor == 1 || minor == 2) then none
    else directives true handles ts
  | .tagDirective handle start :: ts =>
    if (handles.lookup handle).isSome then none
    else directives hasVersion (handles ++ [(handle, start)]) ts
  | ts => some (handles, ts)

private def startsDocument : Token → Bool
  | .versionDirective .. | .tagDirective .. | .documentStart => true
  | _ => false

private def isContent (t : Token) : Bool := !startsDocument t && t != .documentEnd

/-- Read a node with a number of calls that no list of tokens exceeds: between two tokens that are
passed over there are at most four calls. -/
private def readNode (handles : List (String × String)) (ts : List Token) :
    Option (Node × List Token) :=
  match (Read.node (4 * ts.length + 4) true false).run ⟨ts, handles ++ defaultHandles, []⟩ with
  | some (n, r) => some (n, r.tokens)
  | none => none

/-- Read a document. Only the first one may stand without a mark of its start. -/
private def readDocument (ts : List Token) : Option (Node × List Token) :=
  if ts.head?.any startsDocument then
    match directives false [] ts with
    | some (handles, .documentStart :: ts) =>
      if ts.head?.any isContent then readNode handles ts else some (.empty, ts)
    | _ => none
  else readNode [] ts

/-- The node of a text's only document. A text without any has no node. -/
def document? (ts : List Token) : Option (Option Node) :=
  if ts.isEmpty then some none
  else
    match readDocument ts with
    | some (n, rest) => if rest.all (· == .documentEnd) then some (some n) else none
    | none => none

end ProxySettings.Yaml
