import ProxySettings.Text.Ascii

/-!
# Decimal numbers

Numbers with a sign, digits and a power of ten, kept exactly, and which of them a floating point
number of 64 bits can come near to.
-/

namespace ProxySettings

/-- A decimal number: `mantissa` times ten to the power of `exponent`, negated or not. -/
structure Decimal where
  negative : Bool
  mantissa : Nat
  exponent : Int
  deriving Repr, DecidableEq

namespace Decimal

/-- The numbers from this one on are nearer to 2 ^ 1024 than to any floating point number of 64
bits. -/
def floatLimit : Nat := 1 <<< 1024 - 1 <<< 970

/-- The number without its sign is below the limit. The number of digits decides, unless it is that
of the limit. -/
def isFinite (d : Decimal) : Bool :=
  let digits : Int := (Nat.toDigits 10 d.mantissa).length + d.exponent
  if d.mantissa = 0 ∨ digits < 309 then true
  else if 309 < digits then false
  else if 0 ≤ d.exponent then d.mantissa * Nat.pow 10 d.exponent.toNat < floatLimit
  else d.mantissa < floatLimit * Nat.pow 10 (-d.exponent).toNat

private def dropSign (cs : List Char) : Bool × List Char :=
  match cs with
  | '+' :: rest => (false, rest)
  | '-' :: rest => (true, rest)
  | cs => (false, cs)

/-- The number that a text denotes: a sign, digits with a point among or beside them, and a power of
ten. Sign, point and power may be missing. -/
def read? (cs : List Char) : Option Decimal := do
  let (negative, cs) := dropSign cs
  let (digits, power) := cs.span fun c ↦ c != 'e' && c != 'E'
  let (whole, fraction) := digits.span (· != '.')
  let decimals := fraction.drop 1
  let mantissa ← Text.number? 10 (whole ++ decimals)
  match power with
  | [] => return ⟨negative, mantissa, -decimals.length⟩
  | _ :: power =>
    let (isBelow, ds) := dropSign power
    let n : Int := ← Text.number? 10 ds
    return ⟨negative, mantissa, (if isBelow then -n else n) - decimals.length⟩

end Decimal

end ProxySettings
