import ProxySettings.Toml.Number
import ProxySettings.Toml.Table
import ProxySettings.Toml.Text

/-!
# Documents in TOML

A document is a sequence of lines: headers of tables, keys with values, comments and blank lines.
Only values may take more than one line. In the proxy `load_from_path` reads such documents.
-/

namespace ProxySettings.Toml

/-- The number of parts of a key, and of arrays and tables in braces within each other, is below
this number. -/
def depthLimit : Nat := 80

private def skipSpace (cs : List Char) : List Char := cs.dropWhile isSpace

/-- What follows a comment, if there is one. -/
private def skipComment (cs : List Char) : List Char :=
  match cs with
  | '#' :: rest => rest.dropWhile Text.Escaped.isPlain
  | cs => cs

/-- Drop blanks, line breaks and comments. -/
private def skipLines : Nat → List Char → List Char
  | 0, cs => cs
  | fuel + 1, cs =>
    match skipBlank cs with
    | '#' :: rest => skipLines fuel (skipComment ('#' :: rest))
    | cs => cs

/-! ## Keys -/

private def isKeyChar (c : Char) : Bool := Text.isAlphanumeric c || c == '_' || c == '-'

private def simpleKey? (cs : List Char) : Option (String × List Char) :=
  match readLine? cs with
  | some found => some found
  | none =>
    match cs.span isKeyChar with
    | ([], _) => none
    | (key, rest) => some (String.ofList key, rest)

/-- The parts of a key, with spaces around each. -/
private def keyParts? : Nat → List Char → Option (List String × List Char)
  | 0, _ => none
  | fuel + 1, cs => do
    let (key, rest) ← simpleKey? (skipSpace cs)
    match skipSpace rest with
    | '.' :: rest => (keyParts? fuel rest).map fun (keys, after) ↦ (key :: keys, after)
    | rest => return ([key], rest)

/-- A key as the tables it passes through and its last part. -/
private def key? (cs : List Char) : Option ((List String × String) × List Char) := do
  let (parts, rest) ← keyParts? (depthLimit - 1) cs
  return ((parts.dropLast, ← parts.getLast?), rest)

/-! ## Values -/

private def word? (w : String) (datum : Datum) (cs : List Char) : Option (Datum × List Char) :=
  if w.toList.isPrefixOf cs then some (datum, cs.drop w.length) else none

mutual

/-- Read a value inside of `depth` arrays and tables. -/
private def readValue (fuel depth : Nat) (cs : List Char) : Option (Datum × List Char) :=
  match fuel with
  | 0 => none
  | fuel + 1 =>
    match cs with
    | [] => none
    | c :: rest =>
      match c with
      | '"' => (readText? cs).map fun (text, after) ↦ (.text text, after)
      | '\x27' => (readText? cs).map fun (text, after) ↦ (.text text, after)
      | '[' =>
        if depth + 1 < depthLimit then
          (readItems fuel (depth + 1) rest).map fun (items, after) ↦ (.list items, after)
        else none
      | '\x7b' =>
        if depth + 1 < depthLimit then
          match skipSpace rest with
          | '\x7d' :: after => some (.other, after)
          | rest => (readPairs fuel (depth + 1) [] rest).map fun after ↦ (.other, after)
        else none
      | 't' => word? "true" (.bool true) cs
      | 'f' => word? "false" (.bool false) cs
      | _ => readNumber? cs

/-- Read the items of an array and its closing bracket; a comma may stand after the last item. -/
private def readItems (fuel depth : Nat) (cs : List Char) : Option (List Datum × List Char) :=
  match fuel with
  | 0 => none
  | fuel + 1 =>
    match skipLines fuel cs with
    | ']' :: after => some ([], after)
    | cs =>
      match readValue fuel depth cs with
      | none => none
      | some (item, rest) =>
        match skipLines fuel rest with
        | ',' :: rest =>
          (readItems fuel depth rest).map fun (items, after) ↦ (item :: items, after)
        | ']' :: after => some ([item], after)
        | _ => none

/-- Read the keys and values of a table in braces and its closing brace. -/
private def readPairs (fuel depth : Nat) (items : Items) (cs : List Char) : Option (List Char) :=
  match fuel with
  | 0 => none
  | fuel + 1 =>
    match key? cs with
    | some ((path, key), '=' :: rest) =>
      match readValue fuel depth (skipSpace rest) with
      | none => none
      | some (datum, rest) =>
        match items.addValue path key datum, skipSpace rest with
        | some items, ',' :: rest => readPairs fuel depth items rest
        | some _, '\x7d' :: after => some after
        | _, _ => none
    | _ => none

end

/-! ## Lines -/

/-- The rest of a line: spaces, a comment, and the end of the line or the text. -/
private def endOfLine? (cs : List Char) : Option (List Char) :=
  match skipComment (skipSpace cs) with
  | [] => some []
  | cs => lineBreak? cs

/-- The items of a document so far, and the key of the last header. -/
private structure State where
  items : Items
  header : List String

private def State.define (s : State) (path : List String) (key : String) : Option State :=
  (s.items.define path key).map (⟨·, path ++ [key]⟩)

private def State.addTable (s : State) (path : List String) (key : String) : Option State :=
  (s.items.addTable path key).map (⟨·, path ++ [key]⟩)

private def State.addValue (s : State) (path : List String) (key : String) (datum : Datum) :
    Option State :=
  (s.items.addValueBelow s.header path key datum).map (⟨·, s.header⟩)

/-- Read one line. -/
private def readLine (fuel : Nat) (s : State) (cs : List Char) : Option (State × List Char) :=
  match skipSpace cs with
  | '[' :: '[' :: rest =>
    match key? rest with
    | some ((path, key), ']' :: ']' :: rest) => do return (← s.addTable path key, ← endOfLine? rest)
    | _ => none
  | '[' :: rest =>
    match key? rest with
    | some ((path, key), ']' :: rest) => do return (← s.define path key, ← endOfLine? rest)
    | _ => none
  | cs =>
    match endOfLine? cs with
    | some rest => some (s, rest)
    | none =>
      match key? cs with
      | some ((path, key), '=' :: rest) => do
        let (datum, rest) ← readValue fuel 0 (skipSpace rest)
        return (← s.addValue path key datum, ← endOfLine? rest)
      | _ => none

private def readFrom (fuel : Nat) (s : State) (cs : List Char) : Option Items :=
  match fuel, cs with
  | _, [] => some s.items
  | 0, _ => none
  | fuel + 1, cs =>
    match readLine fuel s cs with
    | some (s, rest) => readFrom fuel s rest
    | none => none

/-- The layer of a document. A byte order mark may precede it. Every line and every value takes a
character, and an item at least one more, so twice the length of the text is fuel enough. -/
def layer? (text : String) : Option Layer :=
  let cs := match text.toList with
    | '\ufeff' :: rest => rest
    | cs => cs
  (readFrom (2 * cs.length + 2) ⟨[], []⟩ cs).map Items.layer

end ProxySettings.Toml
