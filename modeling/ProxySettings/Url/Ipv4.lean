import ProxySettings.Text.Ascii
import ProxySettings.Text.Blank

/-!
# IPv4 addresses in host names

A host name whose last part is a number is an IPv4 address. It has up to four numbers in decimal,
octal or hexadecimal, and the last number fills all bytes that are left.
-/

namespace ProxySettings.Url

/-- The number that a part of a name is written as, if it is one. -/
def number? (part : List Char) : Option Nat :=
  match part with
  | [] => none
  | '0' :: x :: digits =>
    if x = 'x' ∨ x = 'X' then (if digits.isEmpty then some 0 else Text.number? 16 digits)
    else Text.number? 8 (x :: digits)
  | digits => Text.number? 10 digits

/-- The parts of a name between its dots. -/
def parts (name : List Char) : List (List Char) := Text.splitOnAll (· == '.') name

/-- The last part of a name, or the one before it if the name ends with a dot, is a number. -/
def endsInNumber (name : List Char) : Bool :=
  let isNumber (part : List Char) : Bool :=
    (!part.isEmpty && part.all Text.isDigit) || (number? part).isSome
  match (parts name).reverse with
  | [] => false
  | [] :: before :: _ => isNumber before
  | last :: _ => isNumber last

/-- The value of an address with the numbers before its last one, first one first. -/
def combine (last : Nat) (before : List Nat) : Option Nat :=
  if before.length < 4 ∧ last < 1 <<< (8 * (4 - before.length)) ∧ before.all (· < 256) then
    some (before.foldl (fun v n ↦ v * 256 + n) 0 <<< (8 * (4 - before.length)) + last)
  else none

/-- The address of a name that ends in a number. -/
def ipv4? (name : List Char) : Option Nat :=
  let all := parts name
  let kept := if all.getLast? = some [] then all.dropLast else all
  match (kept.mapM number?).map List.reverse with
  | some (last :: before) => combine last before.reverse
  | _ => none

/-- Four decimal numbers with dots between them. -/
def ipv4Text (address : Nat) : String :=
  let byte (i : Nat) : String := toString ((address >>> (8 * i)) % 256)
  byte 3 ++ "." ++ byte 2 ++ "." ++ byte 1 ++ "." ++ byte 0

end ProxySettings.Url
