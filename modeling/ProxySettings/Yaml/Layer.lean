import ProxySettings.Decimal
import ProxySettings.Settings.Layer
import ProxySettings.Yaml.Node
import ProxySettings.Yaml.Scanner

/-!
# Settings in YAML

The layer of a YAML text: its only document is a mapping whose keys are texts. A plain text without
a tag stands for nothing, for a truth value or for a number if it looks like one. In the proxy
`load_from_path` reads such texts.
-/

namespace ProxySettings.Yaml

/-! ## Plain texts -/

/-- Nothing. -/
def isNull (text : String) : Bool := ["null", "Null", "NULL", "~"].contains text

/-- The truth value that a text stands for. -/
def bool? (text : String) : Option Bool :=
  if ["true", "True", "TRUE"].contains text then some true
  else if ["false", "False", "FALSE"].contains text then some false
  else none

private def afterSign (cs : List Char) : List Char :=
  match cs with
  | '+' :: rest => rest
  | '-' :: rest => rest
  | cs => cs

/-- Several digits of which the first one is a zero: a text, and no number. -/
def isPadded (cs : List Char) : Bool :=
  match afterSign cs with
  | '0' :: rest => !rest.isEmpty && rest.all Text.isDigit
  | _ => false

private def magnitude? (cs : List Char) : Option Nat :=
  match cs with
  | '0' :: 'x' :: rest => Text.number? 16 rest
  | '0' :: 'o' :: rest => Text.number? 8 rest
  | '0' :: 'b' :: rest => Text.number? 2 rest
  | cs => if isPadded cs then none else Text.number? 10 cs

/-- The integer of 128 bits that a text stands for, in one of four radices. -/
def integer? (cs : List Char) : Option Int :=
  match cs with
  | '-' :: rest => ((magnitude? rest).filter (· ≤ 1 <<< 127)).map fun n ↦ -(n : Int)
  | cs =>
    let digits := if cs.head? = some '+' then cs.drop 1 else cs
    ((magnitude? digits).filter (· < 1 <<< 128)).map Int.ofNat

/-- A text stands for a fraction, or for a number without bounds. -/
def isFraction (cs : List Char) : Bool :=
  [".inf", ".Inf", ".INF", "+.inf", "+.Inf", "+.INF", "-.inf", "-.Inf", "-.INF", ".nan", ".NaN",
    ".NAN"].contains (String.ofList cs) || (Decimal.read? cs).any (·.isFinite)

/-- The value that a plain text stands for. -/
def plainDatum (text : String) : Datum :=
  if text.isEmpty || isNull text then .null
  else
    match bool? text with
    | some b => .bool b
    | none =>
      match integer? text.toList with
      | some n => .integer n
      | none =>
        if !isPadded text.toList && isFraction text.toList then .other else .text text

/-! ## Tags -/

/-- The prefix of the tags for common values. -/
def commonTag : String := "tag:yaml.org,2002:"

/-- The value of a text with a tag. The tag of a kind of values refuses all other texts, a tag of
the document's own has no value, and any other tag leaves the text as it is. -/
private def taggedDatum? (tag text : String) : Option Datum :=
  if tag = commonTag ++ "bool" then (bool? text).map .bool
  else if tag = commonTag ++ "int" then (integer? text.toList).map .integer
  else if tag = commonTag ++ "float" then if isFraction text.toList then some .other else none
  else if tag = commonTag ++ "null" then if isNull text then some .null else none
  else if tag.startsWith "!" then none
  else some (.text text)

private def scalarDatum? (tag : Option String) (text : String) (isPlain : Bool) : Option Datum :=
  match tag with
  | some tag => taggedDatum? tag text
  | none => some (if isPlain then plainDatum text else .text text)

/-! ## Nodes -/

/-- The collections that may be nested. -/
def maxDepth : Nat := 128

mutual

/-- The nodes with anchors, in the order in which they start. -/
private def Node.anchored : Node → List (Nat × Node)
  | .alias _ => []
  | n@(.scalar anchor ..) => anchor.toList.map (·, n)
  | n@(.sequence anchor _ items) => anchor.toList.map (·, n) ++ anchoredItems items
  | n@(.mapping anchor _ pairs) => anchor.toList.map (·, n) ++ anchoredPairs pairs

private def anchoredItems : List Node → List (Nat × Node)
  | [] => []
  | n :: rest => n.anchored ++ anchoredItems rest

private def anchoredPairs : List (Node × Node) → List (Nat × Node)
  | [] => []
  | (k, v) :: rest => k.anchored ++ v.anchored ++ anchoredPairs rest

end

mutual

/-- The number of marks that a node takes: one for a text or an alias, two for a collection. -/
private def Node.marks : Node → Nat
  | .alias _ => 1
  | .scalar .. => 1
  | .sequence _ _ items => 2 + marksOfItems items
  | .mapping _ _ pairs => 2 + marksOfPairs pairs

private def marksOfItems : List Node → Nat
  | [] => 0
  | n :: rest => n.marks + marksOfItems rest

private def marksOfPairs : List (Node × Node) → Nat
  | [] => 0
  | (k, v) :: rest => k.marks + v.marks + marksOfPairs rest

end

/-- What aliases stand for, and how many of them may be followed. -/
private structure Targets where
  nodes : List (Nat × Node)
  limit : Nat

/-- Computations that count the aliases they follow. -/
private abbrev Count := StateT Nat Option

/-- The node that an alias stands for. -/
private def Targets.follow (t : Targets) (n : Node) : Count Node :=
  match n with
  | .alias id => do
    modify (· + 1)
    if t.limit < (← get) then failure
    match t.nodes.lookup id with
    | some n => return n
    | none => failure
  | n => pure n

/-- The text of a key. -/
private def keyText (t : Targets) (n : Node) : Count String := do
  match ← t.follow n with
  | .scalar _ _ text _ => return text
  | _ => failure

private def isLocal (tag : Option String) : Bool := tag.any (·.startsWith "!")

/-- The value of a node, with at most `depth` collections within each other. -/
private def value (t : Targets) (depth : Nat) (n : Node) : Count Datum := do
  match ← t.follow n with
  | .scalar _ tag text isPlain => StateT.lift (scalarDatum? tag text isPlain)
  | .sequence _ tag items =>
    match depth with
    | 0 => failure
    | depth + 1 =>
      if isLocal tag then failure
      return .list (← items.mapM (value t depth))
  | .mapping _ tag pairs =>
    match depth with
    | 0 => failure
    | depth + 1 =>
      if isLocal tag then failure
      let _ ← pairs.mapM fun p ↦ do
        let _ ← keyText t p.1
        value t depth p.2
      return .other
  | .alias _ => failure

/-- The layer of a document. A document without content is an empty layer. -/
private def layerOf (t : Targets) : Node → Count Layer
  | .mapping _ _ pairs => pairs.mapM fun p ↦ do
      let key ← keyText t p.1
      return (key, ← value t (maxDepth - 1) p.2)
  | .scalar _ _ "" true => pure []
  | _ => failure

/-- The number of aliases that may be followed for each mark of a document. -/
def aliasesPerMark : Nat := 100

/-- The layer of a text. -/
def layer? (text : String) : Option Layer := do
  match ← document? (← tokens? text.toList) with
  | none => return []
  | some n =>
    let targets : Targets := ⟨n.anchored.reverse, aliasesPerMark * n.marks⟩
    return (← (layerOf targets n).run 0).1

end ProxySettings.Yaml
