import ProxySettings.Unicode.CharSet

/-!
# Pattern expressions

A pattern is an expression over atoms. An atom either consumes one character of a set or puts a
condition on the place between two characters. Everything else is built from atoms by sequence,
choice and repetition.
-/

namespace ProxySettings.Pattern

open Unicode (CharSet)

/-- What a place has to be with respect to the words of a text. -/
inductive WordPlace where
  | boundary | notBoundary | start | stop | startHalf | stopHalf
  deriving Repr, DecidableEq

/-- A condition on a place of a text. Lines end at a line feed; with `returns`, also at a carriage
return, and the two in a row are one end. Words are runs of word characters, or with `ascii` of
ASCII letters, digits and underscores. -/
inductive Look where
  | textStart
  | textEnd
  | lineStart (returns : Bool)
  | lineEnd (returns : Bool)
  | word (place : WordPlace) (ascii : Bool)
  deriving Repr, DecidableEq

/-- The smallest parts of a pattern. -/
inductive Atom where
  | char (set : CharSet)
  | look (condition : Look)
  deriving Repr

/-- Expressions over atoms of any kind. A repetition without `max` has no upper bound. -/
inductive Expr (α : Type) where
  | empty
  | atom (a : α)
  | seq (e f : Expr α)
  | alt (e f : Expr α)
  | rep (e : Expr α) (min : Nat) (max : Option Nat)
  | capture (e : Expr α)
  deriving Repr

namespace Expr

variable {α β : Type}

/-- Replace every atom. -/
def map (f : α → β) : Expr α → Expr β
  | empty => empty
  | atom a => atom (f a)
  | seq d e => seq (d.map f) (e.map f)
  | alt d e => alt (d.map f) (e.map f)
  | rep e min max => rep (e.map f) min max
  | capture e => capture (e.map f)

/-- A sequence of any length. -/
def seqs : List (Expr α) → Expr α
  | [] => empty
  | [e] => e
  | e :: rest => seq e (seqs rest)

/-- A choice between any number of expressions; without any it is the empty one. -/
def alts : List (Expr α) → Expr α
  | [] => empty
  | [e] => e
  | e :: rest => alt e (alts rest)

end Expr

end ProxySettings.Pattern
