import ProxySettings.Error
import ProxySettings.Text.Ascii
import ProxySettings.Text.Blank

/-!
# Sizes

A size is a positive number of bytes of 64 bits, with a suffix for its unit. A blank text sets no
limit. In the proxy this is `parse_size`.
-/

namespace ProxySettings.Size

/-- The sizes end below this number. -/
def bound : Nat := UInt64.size

/-- The number of bytes in a suffix's unit. -/
def unit? (c : Char) : Option Nat :=
  match c.toLower with
  | 'k' => some 1024
  | 'm' => some (1024 * 1024)
  | 'g' => some (1024 * 1024 * 1024)
  | _ => none

/-- The digits of a size and the number of bytes in its unit. -/
def split (cs : List Char) : List Char × Nat :=
  match cs.getLast?.bind unit? with
  | some unit => (cs.dropLast, unit)
  | none => (cs, 1)

/-- The number that digits with an optional plus sign denote. -/
def count? (cs : List Char) : Option Nat :=
  match cs with
  | '+' :: digits => Text.number? 10 digits
  | digits => Text.number? 10 digits

/-- The size that characters without blanks around them denote. -/
def ofChars? (cs : List Char) : Option Nat := do
  let (digits, unit) := split cs
  let size := (← count? digits) * unit
  if 0 < size ∧ size < bound then some size else none

/-- Read a size (`parse_size`). -/
def parse (text : String) : Except ConfigError (Option Nat) :=
  match Text.trimWhile Text.isBlank text.toList with
  | [] => .ok none
  | cs =>
    match ofChars? cs with
    | some size => .ok (some size)
    | none => .error (.invalidFormat .size text)

end ProxySettings.Size
