import ProxySettings.Decimal
import ProxySettings.Settings.Layer
import ProxySettings.Text.Ascii

/-!
# Numbers and dates in TOML

Integers of 64 bits in four radices, fractions, and dates with times. Underscores may stand between
digits. The readers return a value with what follows it.
-/

namespace ProxySettings.Toml

/-- Digits of a radix with single underscores between them, and what follows. -/
def digits? (radix : Nat) : List Char → Option (List Char × List Char)
  | [] => none
  | c :: rest =>
    let isDigit (c : Char) : Bool := (Text.digitValue? radix c).isSome
    if !isDigit c then none
    else
      match rest with
      | '_' :: more => (digits? radix more).map fun (ds, after) ↦ (c :: ds, after)
      | rest =>
        if rest.head?.any isDigit then (digits? radix rest).map fun (ds, after) ↦ (c :: ds, after)
        else some ([c], rest)

/-- A sign, if there is one: the number is negative, and what follows the sign. -/
def sign : List Char → Bool × List Char
  | '-' :: rest => (true, rest)
  | '+' :: rest => (false, rest)
  | cs => (false, cs)

/-- Decimal digits that do not start with zero, or a zero. -/
private def whole? (cs : List Char) : Option (List Char × List Char) :=
  match cs with
  | '0' :: rest => some (['0'], rest)
  | cs => digits? 10 cs

private def natural (radix : Nat) (ds : List Char) : Nat := (Text.number? radix ds).getD 0

/-! ## Integers -/

private def inRange (n : Int) : Option Datum :=
  if Int64.minValue.toInt ≤ n ∧ n ≤ Int64.maxValue.toInt then some (.integer n) else none

/-- Read an integer. A radix has no sign. -/
def readInteger? (cs : List Char) : Option (Datum × List Char) :=
  let ofRadix (radix : Nat) (rest : List Char) : Option (Datum × List Char) := do
    let (ds, after) ← digits? radix rest
    return (← inRange (natural radix ds), after)
  match cs with
  | '0' :: 'x' :: rest => ofRadix 16 rest
  | '0' :: 'o' :: rest => ofRadix 8 rest
  | '0' :: 'b' :: rest => ofRadix 2 rest
  | cs => do
    let (isNegative, rest) := sign cs
    let (ds, after) ← whole? rest
    let n : Int := natural 10 ds
    return (← inRange (if isNegative then -n else n), after)

/-! ## Fractions -/

/-- The digits after a point, if there is one, and what follows; a point needs digits. -/
private def decimals? (cs : List Char) : Option (List Char × List Char) :=
  match cs with
  | '.' :: rest => digits? 10 rest
  | cs => some ([], cs)

/-- A power of ten, if there is one; the letter needs digits. -/
private def power? (cs : List Char) : Option (Int × List Char) :=
  match cs with
  | c :: rest =>
    if c = 'e' ∨ c = 'E' then do
      let (isNegative, rest) := sign rest
      let (ds, after) ← digits? 10 rest
      let n : Int := natural 10 ds
      return (if isNegative then -n else n, after)
    else some (0, cs)
  | [] => some (0, [])

private def spelled? (w : String) (cs : List Char) : Option (List Char) :=
  if w.toList.isPrefixOf cs then some (cs.drop w.length) else none

/-- What follows a number with a point or a power; none if it has neither, or is too large. -/
private def afterFraction? (cs : List Char) : Option (List Char) := do
  let (isNegative, rest) := sign cs
  match (spelled? "inf" rest).or (spelled? "nan" rest) with
  | some after => some after
  | none =>
    let (ds, rest) ← whole? rest
    let (fraction, mid) ← decimals? rest
    let (exponent, after) ← power? mid
    guard (after.length ≠ rest.length)
    let d : Decimal := ⟨isNegative, natural 10 (ds ++ fraction), exponent - fraction.length⟩
    if isNegative || d.isFinite then some after else none

/-! ## Dates and times -/

/-- A number of exactly `n` digits. -/
private def fixed? (n : Nat) (cs : List Char) : Option (Nat × List Char) :=
  let ds := cs.take n
  if ds.length = n ∧ ds.all Text.isDigit then some (natural 10 ds, cs.drop n) else none

private def mark? (c : Char) (cs : List Char) : Option (List Char) :=
  if cs.head? = some c then some (cs.drop 1) else none

private def daysOf (year month : Nat) : Nat :=
  let isLeap := (year % 4 = 0 ∧ year % 100 ≠ 0) ∨ year % 400 = 0
  if month = 2 then (if isLeap then 29 else 28)
  else if [4, 6, 9, 11].contains month then 30
  else 31

/-- What follows a date. -/
private def afterDate? (cs : List Char) : Option (List Char) := do
  let (year, cs) ← fixed? 4 cs
  let (month, cs) ← fixed? 2 (← mark? '-' cs)
  let (day, cs) ← fixed? 2 (← mark? '-' cs)
  guard (1 ≤ month ∧ month ≤ 12 ∧ 1 ≤ day ∧ day ≤ daysOf year month)
  return cs

/-- What follows a time of day; a minute may have a sixty-first second. -/
private def afterTime? (cs : List Char) : Option (List Char) := do
  let (hour, cs) ← fixed? 2 cs
  let (minute, cs) ← fixed? 2 (← mark? ':' cs)
  let (second, cs) ← fixed? 2 (← mark? ':' cs)
  guard (hour ≤ 23 ∧ minute ≤ 59 ∧ second ≤ 60)
  match cs with
  | '.' :: rest =>
    let after := rest.dropWhile Text.isDigit
    if after.length < rest.length then some after else none
  | cs => return cs

/-- What follows a distance from the time of Greenwich, if there is one. -/
private def afterOffset? (cs : List Char) : Option (List Char) :=
  match cs with
  | [] => some []
  | c :: rest =>
    if c = 'Z' ∨ c = 'z' then some rest
    else if c = '+' ∨ c = '-' then do
      let (hour, rest) ← fixed? 2 rest
      let (minute, rest) ← fixed? 2 (← mark? ':' rest)
      if hour ≤ 23 ∧ minute ≤ 59 then some rest else none
    else some cs

/-- The text starts with an hour and a colon. -/
private def startsTime (cs : List Char) : Bool := ((fixed? 2 cs).bind fun p ↦ mark? ':' p.2).isSome

/-- The text starts with a year and a hyphen. -/
private def startsDate (cs : List Char) : Bool := ((fixed? 4 cs).bind fun p ↦ mark? '-' p.2).isSome

/-- What follows a date, a date with a time, or a time. -/
private def afterMoment? (cs : List Char) : Option (List Char) :=
  if startsDate cs then do
    let rest ← afterDate? cs
    match rest with
    | c :: time =>
      if (c = 'T' ∨ c = 't' ∨ c = ' ') ∧ startsTime time then afterOffset? (← afterTime? time)
      else return rest
    | [] => return []
  else afterTime? cs

/-! ## Both -/

/-- Read a number or a date. A date shows in its beginning; of numbers the fraction is tried first.
-/
def readNumber? (cs : List Char) : Option (Datum × List Char) :=
  if startsDate cs || startsTime cs then (afterMoment? cs).map (.other, ·)
  else
    match afterFraction? cs with
    | some after => some (.other, after)
    | none => readInteger? cs

end ProxySettings.Toml
