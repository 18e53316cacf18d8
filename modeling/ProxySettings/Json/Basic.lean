import ProxySettings.Decimal

/-!
# JSON values

A JSON value as it is written: members keep their order and their repetitions, and a number keeps
its decimal digits. A string in which half of a surrogate pair is escaped denotes no text.
-/

namespace ProxySettings

/-- A number. It is written as an integer if it has neither a fraction nor an exponent. -/
structure Json.Number extends Decimal where
  isInteger : Bool
  deriving Repr, DecidableEq

/-- A JSON value. -/
inductive Json where
  | null
  | bool (b : Bool)
  | number (n : Json.Number)
  | string (text : Option String)
  | array (items : List Json)
  | object (members : List (Option String × Json))
  deriving Repr

namespace Json

/-- A string value. -/
def text (s : String) : Json := string (some s)

/-- A natural number. -/
def nat (n : Nat) : Json := number ⟨⟨false, n, 0⟩, true⟩

/-- An object with the given members. -/
def record (members : List (String × Json)) : Json :=
  object (members.map fun m ↦ (some m.1, m.2))

/-- A value that may be absent. -/
def ofOption {α : Type} (f : α → Json) : Option α → Json
  | some a => f a
  | none => null

/-- The integer that a number is written as. A negative zero is no integer. -/
def Number.int? (n : Number) : Option Int :=
  if !n.isInteger then none
  else if n.negative then (if n.mantissa = 0 then none else some (-n.mantissa))
  else some n.mantissa

/-- The first member of a name. -/
def member? (name : String) : Json → Option Json
  | object members => members.lookup (some name)
  | _ => none

end Json

end ProxySettings
