import ProxySettings.Text.Ascii

/-!
# IPv6 addresses

An address has eight pieces of sixteen bits. Two colons in a row stand for zero pieces, and the last
two pieces may be written as an IPv4 address.
-/

namespace ProxySettings.Url

/-- A decimal number up to 255 without leading zeros, and the text after it. -/
def byte? (cs : List Char) : Option (Nat × List Char) :=
  let digits := cs.takeWhile Text.isDigit
  let rest := cs.dropWhile Text.isDigit
  match digits with
  | '0' :: _ :: _ => none
  | digits =>
    match Text.number? 10 digits with
    | some n => if n < 256 then some (n, rest) else none
    | none => none

/-- The two pieces of an IPv4 address that ends the text. -/
def dotted? (cs : List Char) : Option (List Nat) := do
  let (a, rest) ← byte? cs
  let rest ← if rest.head? = some '.' then some rest.tail else none
  let (b, rest) ← byte? rest
  let rest ← if rest.head? = some '.' then some rest.tail else none
  let (c, rest) ← byte? rest
  let rest ← if rest.head? = some '.' then some rest.tail else none
  let (d, rest) ← byte? rest
  guard rest.isEmpty
  return [a * 256 + b, c * 256 + d]

/-- A hexadecimal digit of either case. -/
def isHex (c : Char) : Bool := (Text.hexValue? c).isSome

/-- The pieces of a text, and the number of pieces before the two colons. Every round takes a
character, so the length of the text is fuel enough. -/
def pieces (before : List Nat) (gap : Option Nat) :
    Nat → List Char → Option (List Nat × Option Nat)
  | _, [] => some (before, gap)
  | 0, _ => none
  | fuel + 1, c :: rest =>
    let used := before.length + (if gap.isSome then 1 else 0)
    if 8 ≤ used then none
    else if c = ':' then
      if gap.isSome then none else pieces before (some before.length) fuel rest
    else
      let cs := c :: rest
      let digits := (cs.takeWhile isHex).take 4
      let value := (Text.number? 16 digits).getD 0
      match cs.drop digits.length with
      | [] => pieces (before ++ [value]) gap fuel []
      | '.' :: _ =>
        if digits.isEmpty ∨ 6 < used then none
        else (dotted? cs).map fun last ↦ (before ++ last, gap)
      | ':' :: after =>
        if after.isEmpty then none else pieces (before ++ [value]) gap fuel after
      | _ => none

/-- The eight pieces of an address: those that are written, and zeros for the two colons. -/
def filled : List Nat × Option Nat → Option (List Nat)
  | (found, none) => if found.length = 8 then some found else none
  | (found, some i) => some (found.take i ++ List.replicate (8 - found.length) 0 ++ found.drop i)

/-- The eight pieces of the address that a text is. -/
def ipv6? (cs : List Char) : Option (List Nat) :=
  let written := match cs with
    | ':' :: ':' :: rest => pieces [] (some 0) rest.length rest
    | ':' :: _ => none
    | cs => pieces [] none cs.length cs
  written.bind filled

/-- The length of the run of zeros at the start. -/
def zeros (ps : List Nat) : Nat := (ps.takeWhile (· == 0)).length

/-- The first longest run of zeros of at least two pieces: its place and its length. -/
def longestZeros (ps : List Nat) : Option (Nat × Nat) :=
  let runs := (List.range ps.length).map fun i ↦ (i, zeros (ps.drop i))
  runs.foldl (fun best run ↦
    if run.2 < 2 then best
    else
      match best with
      | none => some run
      | some b => if b.2 < run.2 then some run else best) none

/-- Pieces in hexadecimal with colons between them. -/
def colonText (ps : List Nat) : String := ":".intercalate (ps.map Text.hexText)

/-- Pieces with colons between them; the longest run of zeros is left out. -/
def ipv6Text (ps : List Nat) : String :=
  match longestZeros ps with
  | none => colonText ps
  | some (i, n) => colonText (ps.take i) ++ "::" ++ colonText (ps.drop (i + n))

end ProxySettings.Url
