import ProxySettings.Pattern.Escape

/-!
# Searching a text

A search follows sets of places at once. The places of a text of `n` characters are the numbers up
to `n`, and a set of places is a natural number whose bits are the members. Matching an expression
takes the set of places where it may start to the set of places where it may end, so a text matches
if some start leads to some end.
-/

namespace ProxySettings.Pattern

/-- A set of places, as the bits of a number. -/
abbrev Places := Nat

/-- The places in a range of indices that satisfy `p`. -/
def placesWhere (p : Nat → Bool) : Nat → Places
  | 0 => 0
  | n + 1 => placesWhere p n ||| (if p n then 1 <<< n else 0)

/-- What an atom does to a set of places in a fixed text: consume the character at some of them, or
keep some of them. -/
inductive Move where
  | advance (set : Places)
  | keep (set : Places)

/-- The places after a move. -/
def Move.apply : Move → Places → Places
  | advance set, s => (s &&& set) <<< 1
  | keep set, s => s &&& set

def isWordAt (ascii : Bool) (c : Option Char) : Bool :=
  match c with
  | some c => if ascii then asciiWordSet.contains c else wordSet.contains c
  | none => false

/-- Whether a condition holds between two neighbours; the ends of a text have none. -/
def Look.holds (l : Look) (before after : Option Char) : Bool :=
  match l with
  | textStart => before.isNone
  | textEnd => after.isNone
  | lineStart false => before.isNone || before == some '\n'
  | lineStart true =>
    before.isNone || before == some '\n' || (before == some '\r' && after != some '\n')
  | lineEnd false => after.isNone || after == some '\n'
  | lineEnd true =>
    after.isNone || after == some '\r' || (after == some '\n' && before != some '\r')
  | word place ascii =>
    let b := isWordAt ascii before
    let a := isWordAt ascii after
    match place with
    | .boundary => b != a
    | .notBoundary => b == a
    | .start => !b && a
    | .stop => b && !a
    | .startHalf => !b
    | .stopHalf => !a

/-- The move of an atom in a text. -/
def Atom.move (text : Array Char) : Atom → Move
  | char set => .advance (placesWhere (fun i ↦ text[i]?.any set.contains) text.size)
  | look l =>
    .keep (placesWhere (fun i ↦ l.holds (if i = 0 then none else text[i - 1]?) text[i]?)
      (text.size + 1))

/-- Apply a step a number of times; a step that changes nothing needs no repetition. -/
def iterate (step : Places → Places) : Nat → Places → Places
  | 0, s => s
  | n + 1, s =>
    let next := step s
    if next = s then s else iterate step n next

/-- Collect what a step reaches in at most a number of rounds. -/
def collect (step : Places → Places) : Nat → Places → Places
  | 0, s => s
  | n + 1, s =>
    let next := s ||| step s
    if next = s then s else collect step n next

/-- The places where an expression may end, over those where it may start. Without an upper bound
as many rounds as there are places are enough, since every round but the last adds a place. -/
def Expr.reach (rounds : Nat) : Expr Move → Places → Places
  | empty, s => s
  | atom m, s => m.apply s
  | seq d e, s => e.reach rounds (d.reach rounds s)
  | alt d e, s => d.reach rounds s ||| e.reach rounds s
  | rep e min max, s =>
    let extra := match max with
      | some max => max - min
      | none => rounds
    collect (e.reach rounds) extra (iterate (e.reach rounds) min s)
  | capture e, s => e.reach rounds s

/-- Some part of the text is matched by the expression. -/
def Expr.search (e : Expr Atom) (text : List Char) : Bool :=
  let chars := text.toArray
  let places := chars.size + 1
  (e.map (Atom.move chars)).reach places (placesWhere (fun _ ↦ true) places) != 0

end ProxySettings.Pattern
