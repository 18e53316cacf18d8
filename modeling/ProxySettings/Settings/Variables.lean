import ProxySettings.Settings.Layer
import ProxySettings.Text.Blank
import ProxySettings.Text.Escaped

/-!
# Settings in environment variables

A variable whose name starts with a fixed word in any case sets the setting that the rest of its
name names. Its value has a syntax of its own: words for truth, numbers, quoted texts, lists in
brackets and records in braces. A value that does not follow the syntax is a text. In the proxy the
word is `ENV_PREFIX`.
-/

namespace ProxySettings.Variable

/-- The beginning of the names of variables (`ENV_PREFIX`). -/
def start : String := "MITMPROXY_"

/-! ## Values -/

private def isSpace (c : Char) : Bool :=
  c == ' ' || c == '\t' || c == '\n' || c == '\x0c' || c == '\r'

private def skipSpace (cs : List Char) : List Char := cs.dropWhile isSpace

private def endsWord (c : Char) : Bool := ",\x7b\x7d[]".toList.contains c

private def isKeyChar (c : Char) : Bool := Text.isAlphanumeric c || c == '_' || c == '-'

/-- The integer of 64 bits, with or without sign, that a text denotes. -/
private def integer? (cs : List Char) : Option Int :=
  match cs with
  | '-' :: digits =>
    ((Text.number? 10 digits).filter (· ≤ UInt64.size / 2)).map fun n ↦ -(n : Int)
  | '+' :: digits => ((Text.number? 10 digits).filter (· < UInt64.size)).map Int.ofNat
  | digits => ((Text.number? 10 digits).filter (· < UInt64.size)).map Int.ofNat

/-- The value of a word that is neither quoted nor in brackets. A number with a point is a fraction.
-/
private def ofWord (word : List Char) : Datum :=
  if word.contains '.' && (Decimal.read? word).isSome then .other
  else
    match integer? word with
    | some n => .integer n
    | none => .text (String.ofList word)

private def dropWord? (word : String) (cs : List Char) : Option (List Char) :=
  if word.toList.isPrefixOf cs then some (cs.drop word.length) else none

/-- The name of a record's entry, and what follows. -/
private def readKey (cs : List Char) : Option (List Char) :=
  match skipSpace cs with
  | '"' :: rest => (Text.Escaped.read rest).map (·.2)
  | cs => if cs.head?.any isKeyChar then some (cs.dropWhile isKeyChar) else none

mutual

/-- Read a value with space around it. -/
private def readValue (fuel : Nat) (cs : List Char) : Option (Datum × List Char) :=
  match fuel with
  | 0 => none
  | fuel + 1 => do
    let (datum, rest) ← readBare fuel (skipSpace cs)
    return (datum, skipSpace rest)

/-- Read a value. -/
private def readBare (fuel : Nat) (cs : List Char) : Option (Datum × List Char) :=
  match fuel with
  | 0 => none
  | fuel + 1 =>
    match dropWord? "true" cs, dropWord? "false" cs with
    | some rest, _ => some (.bool true, rest)
    | none, some rest => some (.bool false, rest)
    | none, none =>
      match cs with
      | '\x7b' :: rest => (readEntries fuel rest).map fun after ↦ (.other, after)
      | '[' :: rest => (readItems fuel rest).map fun (items, after) ↦ (.list items, after)
      | '"' :: rest =>
        (Text.Escaped.read rest).map fun (s, after) ↦ (.text (String.ofList s), after)
      | '\x27' :: c :: '\x27' :: rest => some (.text c.toString, rest)
      | '\x27' :: _ => none
      | cs =>
        let (word, rest) := cs.span (!endsWord ·)
        some (ofWord (Text.trimWhile Text.isBlank word), rest)

/-- Read the items of a list and its closing bracket. -/
private def readItems (fuel : Nat) (cs : List Char) : Option (List Datum × List Char) :=
  match fuel, cs with
  | 0, _ => none
  | _ + 1, ']' :: rest => some ([], rest)
  | fuel + 1, cs =>
    match readValue fuel cs with
    | some (item, ',' :: rest) =>
      (readItems fuel rest).map fun (items, after) ↦ (item :: items, after)
    | some (item, ']' :: rest) => some ([item], rest)
    | _ => none

/-- Read the entries of a record and its closing brace. -/
private def readEntries (fuel : Nat) (cs : List Char) : Option (List Char) :=
  match fuel, cs with
  | 0, _ => none
  | _ + 1, '\x7d' :: rest => some rest
  | fuel + 1, cs =>
    match (readKey cs).map skipSpace with
    | some ('=' :: rest) =>
      match readValue fuel rest with
      | some (_, ',' :: rest) => readEntries fuel rest
      | some (_, '\x7d' :: rest) => some rest
      | _ => none
    | _ => none

end

/-- The value of a variable. Every bracket takes a character and at most three calls, so three times
the length of the text is fuel enough. -/
def datum (text : String) : Datum :=
  let cs := Text.trimWhile Text.isBlank text.toList
  match readValue (3 * cs.length + 3) cs with
  | some (datum, []) => datum
  | _ => .text (String.ofList cs)

/-! ## Names -/

/-- The setting that a variable's name names, in lower case, without the beginning. A name may have
parts separated by dots; the parts after the first one name entries of a record. -/
def path? (name : String) : Option (List String) :=
  let n := start.length
  if Text.eqIgnoringCase (String.ofList (name.toList.take n)) start then
    let key := Text.asciiLower (Text.trim (String.ofList (name.toList.drop n)))
    let parts := (Text.splitOnAll (· == '.') key.toList).map String.ofList
    if parts.all (!·.isEmpty) then some parts else none
  else none

/-- What a variable sets. -/
def entry? (name value : String) : Option (String × Datum) :=
  match path? name with
  | some [key] => some (key, datum value)
  | some (key :: _) => some (key, .other)
  | _ => none

/-- The layer of the variables. -/
def layer (environment : List (String × String)) : Layer :=
  environment.filterMap fun (name, value) ↦ entry? name value

end ProxySettings.Variable
