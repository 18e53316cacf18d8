/-!
# Punycode

A label beyond ASCII is written with ASCII letters and digits: first its ASCII characters, then the
other code points in ascending order, each as the distance from the one before in both code point
and position. Distances are numbers of variable length to base 36, whose digits are bounded by a
threshold that adapts to the distances so far.
-/

namespace ProxySettings.Punycode

/-- The digit of a value below 36. -/
def digitChar (d : Nat) : Char := if d < 26 then Char.ofNat (97 + d) else Char.ofNat (22 + d)

/-- The value of a digit; case does not count. -/
def digitValue? (c : Char) : Option Nat :=
  let n := c.toNat
  if 97 ≤ n ∧ n ≤ 122 then some (n - 97)
  else if 65 ≤ n ∧ n ≤ 90 then some (n - 65)
  else if 48 ≤ n ∧ n ≤ 57 then some (n - 22)
  else none

/-- The first code point that is not ASCII. -/
def initialCode : Nat := 128

/-- The bias at the start of a label. -/
def initialBias : Nat := 72

/-- The threshold of a digit: a smaller digit is a number's last. -/
def threshold (position bias : Nat) : Nat :=
  if position ≤ bias + 1 then 1 else if bias + 26 ≤ position then 26 else position - bias

theorem threshold_pos (position bias : Nat) : 1 ≤ threshold position bias := by
  unfold threshold
  split
  · exact Nat.le_refl 1
  · split <;> omega

private def adaptFrom (distance position : Nat) : Nat :=
  if 455 < distance then adaptFrom (distance / 35) (position + 36)
  else position + 36 * distance / (distance + 38)
termination_by distance
decreasing_by omega

/-- The bias after a distance, when the label has `length` characters so far. -/
def adapt (distance length : Nat) (isFirst : Bool) : Nat :=
  let d := if isFirst then distance / 700 else distance / 2
  adaptFrom (d + d / length) 0

/-! ## Writing -/

/-- The digits of a distance from a position on. -/
def distanceDigits (bias position distance : Nat) : List Char :=
  let t := threshold position bias
  if distance < t then [digitChar distance]
  else
    digitChar (t + (distance - t) % (36 - t)) ::
      distanceDigits bias (position + 36) ((distance - t) / (36 - t))
termination_by distance
decreasing_by
  have ht := threshold_pos position bias
  have hd := Nat.div_le_self (distance - threshold position bias)
    (36 - threshold position bias)
  omega

/-- The writer's state: what is written, last character first, the distance so far, the bias and
the number of characters written. -/
structure Writer where
  out : List Char
  distance : Nat
  bias : Nat
  count : Nat

/-- Go on to the next character at a code point: one before it counts, and the code point itself is
written as the distance to it. -/
def Writer.step (basics code : Nat) (w : Writer) (c : Char) : Writer :=
  if c.toNat < code then { w with distance := w.distance + 1 }
  else if c.toNat = code then
    ⟨(distanceDigits w.bias 36 w.distance).reverse ++ w.out, 0,
      adapt w.distance (w.count + 1) (w.count == basics), w.count + 1⟩
  else w

/-- Write the characters at code points from `next` on. -/
def Writer.codes (text : List Char) (basics next : Nat) (w : Writer) :
    List Nat → Writer
  | [] => w
  | code :: rest =>
    let start := { w with distance := w.distance + (code - next) * (w.count + 1) }
    let done := text.foldl (Writer.step basics code) start
    Writer.codes text basics (code + 1) { done with distance := done.distance + 1 } rest

/-- Write a label. -/
def encode (text : List Char) : List Char :=
  let basic := text.filter (·.toNat < initialCode)
  let codes := ((text.filter (initialCode ≤ ·.toNat)).map Char.toNat).mergeSort.eraseDups
  let start := if basic.isEmpty then [] else '-' :: basic.reverse
  (Writer.codes text basic.length initialCode ⟨start, 0, initialBias, basic.length⟩
    codes).out.reverse

/-! ## Reading -/

/-- Read a distance: its value and the digits after it. -/
def readDistance (bias position weight sum : Nat) :
    List Char → Option (Nat × List Char)
  | [] => none
  | c :: rest => do
    let d ← digitValue? c
    let t := threshold position bias
    if d < t then return (sum + d * weight, rest)
    else readDistance bias (position + 36) (weight * (36 - t)) (sum + d * weight) rest

/-- Read the distances of a label into the characters read so far; the next one is inserted at
`position` or after it. Every distance takes a digit, so the number of digits is fuel enough. -/
def insertFrom (isFirst : Bool) (code position bias : Nat) (out : List Char) :
    Nat → List Char → Option (List Char)
  | _, [] => some out
  | 0, _ => none
  | fuel + 1, digits => do
    let (distance, rest) ← readDistance bias 36 1 0 digits
    let length := out.length + 1
    let next := code + (position + distance) / length
    let place := (position + distance) % length
    guard next.isValidChar
    insertFrom false next (place + 1) (adapt distance length isFirst)
      (out.take place ++ Char.ofNat next :: out.drop place) fuel rest

/-- Read a label: the ASCII characters before its last hyphen, and the distances after it. -/
def decode? (label : List Char) : Option (List Char) := do
  let (basic, digits) := match label.reverse.span (· != '-') with
    | (after, _ :: before) =>
      if before.isEmpty then ([], label) else (before.reverse, after.reverse)
    | (_, []) => ([], label)
  guard (basic.all (·.toNat < initialCode))
  insertFrom true initialCode 0 initialBias basic digits.length digits

end ProxySettings.Punycode
