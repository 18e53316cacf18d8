import ProxySettings.Json.Basic
import ProxySettings.Text.Ascii

/-!
# Reading JSON

A text is read as one value with white space around it. The readers take the text that is left and
return the value with the text after it.
-/

namespace ProxySettings.Json

/-- White space between the parts of a text. -/
def isSpace (c : Char) : Bool := c == ' ' || c == '\n' || c == '\r' || c == '\t'

/-- The text after white space. -/
def skipSpace (cs : List Char) : List Char := cs.dropWhile isSpace

/-! ## Strings -/

/-- The part of a string that one escape or character stands for: a UTF-16 unit or a character. -/
inductive Piece where
  | char (c : Char)
  | unit (u : Nat)

/-- The character of an escape with one letter. -/
def escapedChar (c : Char) : Option Char :=
  match c with
  | '"' => some '"'
  | '\\' => some '\\'
  | '/' => some '/'
  | 'b' => some '\x08'
  | 'f' => some '\x0c'
  | 'n' => some '\n'
  | 'r' => some '\r'
  | 't' => some '\t'
  | _ => none

/-- The pieces of a string up to its closing quote. -/
def pieces : List Char → Option (List Piece × List Char)
  | [] => none
  | '"' :: rest => some ([], rest)
  | '\\' :: 'u' :: a :: b :: c :: d :: rest =>
    match Text.number? 16 [a, b, c, d] with
    | some u => (pieces rest).map fun (ps, after) ↦ (.unit u :: ps, after)
    | none => none
  | '\\' :: c :: rest =>
    match escapedChar c with
    | some c => (pieces rest).map fun (ps, after) ↦ (.char c :: ps, after)
    | none => none
  | c :: rest =>
    if c.toNat < 32 then none
    else (pieces rest).map fun (ps, after) ↦ (.char c :: ps, after)

/-- The first unit of a surrogate pair. -/
def isHigh (u : Nat) : Bool := 0xd800 ≤ u && u ≤ 0xdbff

/-- The second unit of a surrogate pair. -/
def isLow (u : Nat) : Bool := 0xdc00 ≤ u && u ≤ 0xdfff

/-- The text of the pieces, if every surrogate has its partner. -/
def assemble : List Piece → Option (List Char)
  | [] => some []
  | .char c :: rest => (assemble rest).map (c :: ·)
  | .unit u :: rest =>
    if isHigh u then
      match rest with
      | .unit v :: rest =>
        if isLow v then
          (assemble rest).map (Char.ofNat (0x10000 + (u - 0xd800) * 1024 + (v - 0xdc00)) :: ·)
        else none
      | _ => none
    else if isLow u then none
    else (assemble rest).map (Char.ofNat u :: ·)

/-- Read a string; the text starts after its opening quote. -/
def readString (cs : List Char) : Option (Option String × List Char) :=
  (pieces cs).map fun (ps, after) ↦ ((assemble ps).map String.ofList, after)

/-! ## Numbers -/

/-- The digits at the start, and the text after them. -/
def digits (cs : List Char) : List Char × List Char :=
  (cs.takeWhile Text.isDigit, cs.dropWhile Text.isDigit)

/-- The number that digits denote. -/
def value (ds : List Char) : Nat := (Text.number? 10 ds).getD 0

/-- The digits after a decimal point, if there is one. -/
def fraction (cs : List Char) : Option (Option (List Char) × List Char) :=
  match cs with
  | '.' :: rest =>
    match digits rest with
    | ([], _) => none
    | (ds, rest) => some (some ds, rest)
  | cs => some (none, cs)

/-- The power of ten, if there is one. -/
def power (cs : List Char) : Option (Option Int × List Char) :=
  match cs with
  | e :: rest =>
    if e = 'e' ∨ e = 'E' then
      let (negative, rest) := match rest with
        | '-' :: rest => (true, rest)
        | '+' :: rest => (false, rest)
        | rest => (false, rest)
      match digits rest with
      | ([], _) => none
      | (ds, rest) =>
        some (some (if negative then -(value ds : Int) else (value ds : Int)), rest)
    else some (none, cs)
  | [] => some (none, [])

/-- The sign, and the text after it. -/
def sign (cs : List Char) : Bool × List Char :=
  match cs with
  | '-' :: rest => (true, rest)
  | cs => (false, cs)

/-- The digits before a decimal point. No digit follows a first zero. -/
def whole (cs : List Char) : Option (List Char × List Char) :=
  match cs with
  | '0' :: rest => if (rest.head?.any Text.isDigit) then none else some (['0'], rest)
  | cs =>
    match digits cs with
    | ([], _) => none
    | found => some found

/-- Read a number. -/
def readNumber (cs : List Char) : Option (Number × List Char) := do
  let (negative, cs) := sign cs
  let (ds, rest) ← whole cs
  let (decimals, rest) ← fraction rest
  let (exponent, rest) ← power rest
  let decimalDigits := decimals.getD []
  let d : Decimal :=
    ⟨negative, value (ds ++ decimalDigits), exponent.getD 0 - decimalDigits.length⟩
  return (⟨d, decimals.isNone && exponent.isNone⟩, rest)

/-! ## Values -/

/-- A value whose text is a word; its first letter has been read. -/
def word (w : String) (v : Json) (cs : List Char) : Option (Json × List Char) :=
  if w.toList.isPrefixOf cs then some (v, cs.drop w.length) else none

mutual

/-- Read a value with at most `fuel` values and members in it. -/
def readValue (fuel : Nat) (cs : List Char) : Option (Json × List Char) :=
  match fuel with
  | 0 => none
  | fuel + 1 =>
    match skipSpace cs with
    | [] => none
    | c :: rest =>
      match c with
      | 'n' => word "ull" .null rest
      | 't' => word "rue" (.bool true) rest
      | 'f' => word "alse" (.bool false) rest
      | '"' => (readString rest).map fun (s, after) ↦ (.string s, after)
      | '[' =>
        match skipSpace rest with
        | ']' :: after => some (.array [], after)
        | rest => (readItems fuel rest).map fun (items, after) ↦ (.array items, after)
      | '\x7b' =>
        match skipSpace rest with
        | '\x7d' :: after => some (.object [], after)
        | rest => (readMembers fuel rest).map fun (members, after) ↦ (.object members, after)
      | c => (readNumber (c :: rest)).map fun (n, after) ↦ (.number n, after)

/-- Read the items of an array and its closing bracket. -/
def readItems (fuel : Nat) (cs : List Char) : Option (List Json × List Char) :=
  match fuel with
  | 0 => none
  | fuel + 1 =>
    match readValue fuel cs with
    | none => none
    | some (item, rest) =>
      match skipSpace rest with
      | ',' :: rest => (readItems fuel rest).map fun (items, after) ↦ (item :: items, after)
      | ']' :: after => some ([item], after)
      | _ => none

/-- Read the members of an object and its closing brace. -/
def readMembers (fuel : Nat) (cs : List Char) :
    Option (List (Option String × Json) × List Char) :=
  match fuel with
  | 0 => none
  | fuel + 1 =>
    match skipSpace cs with
    | '"' :: rest =>
      match readString rest with
      | none => none
      | some (name, rest) =>
        match skipSpace rest with
        | ':' :: rest =>
          match readValue fuel rest with
          | none => none
          | some (v, rest) =>
            match skipSpace rest with
            | ',' :: rest =>
              (readMembers fuel rest).map fun (members, after) ↦ ((name, v) :: members, after)
            | '\x7d' :: after => some ([(name, v)], after)
            | _ => none
        | _ => none
    | _ => none

end

/-- Read a whole text. Every value takes a character, and an item or a member at least one more, so
twice the length of the text is fuel enough. -/
def read? (cs : List Char) : Option Json :=
  match readValue (2 * cs.length + 1) cs with
  | some (v, rest) => if (skipSpace rest).isEmpty then some v else none
  | none => none

end ProxySettings.Json
