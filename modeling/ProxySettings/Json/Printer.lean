import ProxySettings.Json.Basic
import ProxySettings.Text.Ascii

/-!
# Writing JSON

A value is written on one line without white space, or spread over lines with two spaces for every
level. A string that denotes no text is written as the empty one.
-/

namespace ProxySettings.Json

/-- One character of a string. -/
def escaped (c : Char) : List Char :=
  match c with
  | '"' => ['\\', '"']
  | '\\' => ['\\', '\\']
  | '\x08' => ['\\', 'b']
  | '\x0c' => ['\\', 'f']
  | '\n' => ['\\', 'n']
  | '\r' => ['\\', 'r']
  | '\t' => ['\\', 't']
  | c => if c.toNat < 32 then "\\u00".toList ++ Text.hexByte c.toNat.toUInt8 else [c]

/-- A string with its quotes. -/
def printString (s : String) : List Char := '"' :: s.toList.flatMap escaped ++ ['"']

/-- A number: its digits, and its power of ten unless it is written as an integer. -/
def printNumber (n : Number) : List Char :=
  (if n.negative then ['-'] else []) ++ (toString n.mantissa).toList ++
    (if n.isInteger then [] else 'e' :: (toString n.exponent).toList)

/-- Items separated by commas, each after a break. -/
def separated (gap : List Char) : List (List Char) → List Char
  | [] => []
  | [item] => gap ++ item
  | item :: rest => gap ++ item ++ ',' :: separated gap rest

/-- The break before a part at some level: none on one line. -/
def lineBreak (spread : Bool) (level : Nat) : List Char :=
  if spread then '\n' :: List.replicate (2 * level) ' ' else []

mutual

/-- Write a value that starts at some level. -/
def print (spread : Bool) (level : Nat) : Json → List Char
  | null => "null".toList
  | bool true => "true".toList
  | bool false => "false".toList
  | number n => printNumber n
  | string s => printString (s.getD "")
  | array [] => ['[', ']']
  | array (item :: items) =>
    '[' :: separated (lineBreak spread (level + 1)) (printItems spread (level + 1) (item :: items))
      ++ lineBreak spread level ++ [']']
  | object [] => ['\x7b', '\x7d']
  | object (member :: members) =>
    '\x7b' :: separated (lineBreak spread (level + 1))
        (printMembers spread (level + 1) (member :: members))
      ++ lineBreak spread level ++ ['\x7d']

/-- Write the items of an array. -/
def printItems (spread : Bool) (level : Nat) : List Json → List (List Char)
  | [] => []
  | item :: items => print spread level item :: printItems spread level items

/-- Write the members of an object. -/
def printMembers (spread : Bool) (level : Nat) : List (Option String × Json) → List (List Char)
  | [] => []
  | (name, v) :: members =>
    (printString (name.getD "") ++ ':' :: (if spread then [' '] else []) ++ print spread level v)
      :: printMembers spread level members

end

/-- A value on one line. -/
def compact (v : Json) : String := String.ofList (print false 0 v)

/-- A value spread over lines. -/
def pretty (v : Json) : String := String.ofList (print true 0 v)

end ProxySettings.Json
