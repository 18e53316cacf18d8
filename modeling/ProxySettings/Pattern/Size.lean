import ProxySettings.Pattern.Expr

/-!
# The compiled size of a pattern

A pattern is refused when the automaton that recognises it takes more than `sizeLimit` bytes. Its
size is counted here without building it: every state takes 32 bytes, every transition of a state
with several targets 8, and every branch of a choice 4. A set of characters beyond ASCII is
recognised byte by byte in UTF-8, and states for the same first bytes are shared.
-/

namespace ProxySettings.Pattern

open Unicode (CharSet Run)

/-- Consecutive code points, ends included. -/
structure Interval where
  first : Nat
  last : Nat
  deriving Repr, DecidableEq

namespace Interval

def joinFrom (a : Interval) : List Interval → List Interval
  | [] => [a]
  | b :: rest =>
    if b.first ≤ a.last + 1 then joinFrom ⟨a.first, max a.last b.last⟩ rest
    else a :: joinFrom b rest

/-- Intervals in order, joined where they meet. -/
def normal (is : List Interval) : List Interval :=
  match is.mergeSort fun a b ↦ a.first ≤ b.first with
  | [] => []
  | a :: rest => joinFrom a rest

def gaps (next : Nat) : List Interval → List Interval
  | [] => if next ≤ 0x10ffff then [⟨next, 0x10ffff⟩] else []
  | a :: rest =>
    if next < a.first then ⟨next, a.first - 1⟩ :: gaps (a.last + 1) rest
    else gaps (a.last + 1) rest

def surrogates : Interval := ⟨0xd800, 0xdfff⟩

/-- The characters outside some intervals. -/
def complement (is : List Interval) : List Interval := gaps 0 (normal (surrogates :: is))

/-- The intervals of a run. -/
def ofRun (r : Run) : List Interval :=
  if r.stride = 1 then [⟨r.first, r.last⟩]
  else (List.range ((r.last - r.first) / r.stride + 1)).map fun i ↦
    ⟨r.first + i * r.stride, r.first + i * r.stride⟩

def covers (is : List Interval) (n : Nat) : Bool :=
  is.any fun i ↦ i.first ≤ n && n ≤ i.last

def pairsOf (p : Unicode.PairRun) : List (List Nat) :=
  (ofRun p.firsts).flatMap fun i ↦
    (List.range (i.last - i.first + 1)).map fun k ↦ [i.first + k, i.first + k + p.distance]

def orbits : List (List Nat) :=
  Unicode.largerOrbits ++ Unicode.pairRuns.flatMap pairsOf

private def asciiOrbits : List (List Nat) := (List.range 26).map fun i ↦ [65 + i, 97 + i]

/-- The intervals with all members of the orbits that they meet. -/
def closeUnder (orbits : List (List Nat)) (is : List Interval) : List Interval :=
  normal (is ++ (orbits.filter (·.any (covers is))).flatMap (·.map fun n ↦ ⟨n, n⟩))

private def inter (a b : List Interval) : List Interval :=
  complement (complement a ++ complement b)

/-- The members of a set as intervals in order. -/
def ofSet : CharSet → List Interval
  | .runs rs => normal (rs.flatMap ofRun)
  | .union a b => normal (ofSet a ++ ofSet b)
  | .inter a b => inter (ofSet a) (ofSet b)
  | .diff a b => inter (ofSet a) (complement (ofSet b))
  | .symmDiff a b =>
    normal (inter (ofSet a) (complement (ofSet b)) ++ inter (ofSet b) (complement (ofSet a)))
  | .compl a => complement (ofSet a)
  | .folded a => closeUnder orbits (ofSet a)
  | .asciiFolded a => closeUnder asciiOrbits (ofSet a)

end Interval

/-- The byte ranges of the values from `lo` to `hi` written as a lead and `k` digits to base 64,
one list for each block of values that varies in its digits independently. -/
def blocks (lead : Nat) : Nat → Nat → Nat → List (List Interval)
  | 0, lo, hi => [[⟨lead + lo, lead + hi⟩]]
  | k + 1, lo, hi =>
    let m := 1 <<< (6 * (k + 1))
    let top (v : Nat) : Interval := ⟨lead + v, lead + v⟩
    let full := List.replicate (k + 1) (⟨0, 63⟩ : Interval)
    if lo / m = hi / m then
      (blocks 0 k (lo % m) (hi % m)).map (top (lo / m) :: ·)
    else
      let low := if lo % m = 0 then [] else (blocks 0 k (lo % m) (m - 1)).map (top (lo / m) :: ·)
      let high := if hi % m = m - 1 then [] else (blocks 0 k 0 (hi % m)).map (top (hi / m) :: ·)
      let first := if lo % m = 0 then lo / m else lo / m + 1
      let last := if hi % m = m - 1 then hi / m else hi / m - 1
      let middle :=
        if first ≤ last then [(⟨lead + first, lead + last⟩ : Interval) :: full] else []
      low ++ middle ++ high

/-- The byte sequences of an interval in UTF-8. -/
def byteSequences (i : Interval) : List (List Interval) :=
  let part (lead k lo hi : Nat) :=
    if max i.first lo ≤ min i.last hi then blocks lead k (max i.first lo) (min i.last hi) else []
  part 0 0 0 0x7f ++ part 0xc0 1 0x80 0x7ff ++ part 0xe0 2 0x800 0xffff ++
    part 0xf0 3 0x10000 0x10ffff

def sharedLength : List Interval → List Interval → Nat
  | a :: as, b :: bs => if a = b then sharedLength as bs + 1 else 0
  | _, _ => 0

/-- The number of distinct non-empty beginnings of sequences in order. -/
def beginnings (before : List Interval) : List (List Interval) → Nat
  | [] => 0
  | s :: rest => s.length - sharedLength before s + beginnings s rest

/-- The size of a set of characters. -/
def setSize (set : CharSet) : Nat :=
  match Interval.ofSet set with
  | [] => 64
  | [i] =>
    if i.first = i.last then 32 * (Char.ofNat i.first).utf8Size
    else several [i]
  | is => several is
where
  several (is : List Interval) : Nat :=
    if is.all (·.last < 128) then 64 + 8 * is.length
    else
      let sequences := is.flatMap byteSequences
      64 + 32 * beginnings [] sequences + 4 * sequences.length

namespace Expr

/-- The expression consumes nothing, whatever it matches. -/
def isZeroWidth : Expr Atom → Bool
  | empty => true
  | atom (.char _) => false
  | atom (.look _) => true
  | seq d e => d.isZeroWidth && e.isZeroWidth
  | alt d e => d.isZeroWidth && e.isZeroWidth
  | rep e _ max => e.isZeroWidth || max == some 0
  | capture e => e.isZeroWidth

/-- The expression consumes something, whatever it matches. -/
def isConsuming : Expr Atom → Bool
  | empty => false
  | atom (.char _) => true
  | atom (.look _) => false
  | seq d e => d.isConsuming || e.isConsuming
  | alt d e => d.isConsuming && e.isConsuming
  | rep e min _ => 0 < min && e.isConsuming
  | capture e => e.isConsuming

/-- A state that chooses between two others. -/
private def fork : Nat := 40

/-- The size of a repetition of an expression of a known size. -/
private def repeatedSize (size : Nat) (consuming : Bool) : Nat → Option Nat → Nat
  | 0, some 0 => 32
  | 1, some 1 => size
  | 0, some 1 => size + fork + 32
  | 0, none => if consuming then size + fork else size + 2 * fork + 32
  | min, none => min * size + fork
  | min, some max =>
    if min = max then min * size
    else (if min = 0 then 32 else min * size) + 32 + (max - min) * (size + fork)

/-- The size of an expression; `inChoice` as one branch of a choice. -/
def sizeIn (inChoice : Bool) : Expr Atom → Nat
  | alt d e => (if inChoice then 0 else 64) + d.sizeIn true + e.sizeIn true
  | empty => branch + 32
  | atom (.char set) => branch + setSize set
  | atom (.look _) => branch + 32
  | seq d e => branch + d.sizeIn false + e.sizeIn false
  | rep e min max =>
    let size := e.sizeIn false
    branch +
      if e.isZeroWidth then repeatedSize size false (Nat.min min 1) (max.map (Nat.min · 1))
      else repeatedSize size e.isConsuming min max
  | capture e => branch + e.sizeIn false + 64
where
  branch : Nat := if inChoice then 4 else 0

/-- The compiled size of an expression. -/
def size (e : Expr Atom) : Nat := e.sizeIn false

end Expr

/-- The largest compiled size that is accepted, ten mebibytes. -/
def sizeLimit : Nat := 10 * 1024 * 1024

end ProxySettings.Pattern
