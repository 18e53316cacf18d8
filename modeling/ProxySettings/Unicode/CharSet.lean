import ProxySettings.Unicode.CaseOrbit

/-!
# Sets of characters

A set of characters is an expression over runs of code points; membership is a Boolean function of
the character. Each operation's law is the Boolean one, and folding adds every character of a
member's case orbit, or only its other case as an ASCII letter.
-/

namespace ProxySettings.Unicode

/-- A set of characters. -/
inductive CharSet where
  | runs (rs : List Run)
  | union (a b : CharSet)
  | inter (a b : CharSet)
  | diff (a b : CharSet)
  | symmDiff (a b : CharSet)
  | compl (a : CharSet)
  | folded (a : CharSet)
  | asciiFolded (a : CharSet)
  deriving Repr

/-- The other case of an ASCII letter; every other character is its own. -/
def otherAsciiCase (c : Char) : Char := if c.isUpper then c.toLower else c.toUpper

namespace CharSet

/-- Membership. -/
def contains : CharSet → Char → Bool
  | runs rs, c => rs.any (·.contains c.toNat)
  | union a b, c => a.contains c || b.contains c
  | inter a b, c => a.contains c && b.contains c
  | diff a b, c => a.contains c && !b.contains c
  | symmDiff a b, c => a.contains c != b.contains c
  | compl a, c => !a.contains c
  | folded a, c => (orbit c).any a.contains
  | asciiFolded a, c => a.contains c || a.contains (otherAsciiCase c)

/-- The set without members. -/
def empty : CharSet := runs []

/-- The set of all characters. -/
def all : CharSet := compl empty

/-- The set with one member. -/
def single (c : Char) : CharSet := runs [Run.between c.toNat c.toNat]

/-- The characters from one to another, ends included. -/
def range (first last : Char) : CharSet := runs [Run.between first.toNat last.toNat]

/-- The union of several sets. -/
def unions : List CharSet → CharSet
  | [] => empty
  | [a] => a
  | a :: rest => union a (unions rest)

@[simp] theorem contains_empty (c : Char) : empty.contains c = false := rfl

@[simp] theorem contains_all (c : Char) : all.contains c = true := rfl

@[simp] theorem contains_single (c d : Char) : (single c).contains d = true ↔ d = c := by
  simp only [single, contains, List.any_cons, List.any_nil, Bool.or_false, Run.contains_between]
  constructor
  · rintro ⟨h₁, h₂⟩
    exact Char.ext (UInt32.toNat_inj.mp (Nat.le_antisymm h₂ h₁))
  · rintro rfl
    exact ⟨Nat.le_refl _, Nat.le_refl _⟩

theorem contains_unions (sets : List CharSet) (c : Char) :
    (unions sets).contains c = sets.any (·.contains c) := by
  induction sets with
  | nil => rfl
  | cons a rest ih =>
    cases rest with
    | nil => simp [unions]
    | cons b more =>
      rw [show unions (a :: b :: more) = union a (unions (b :: more)) from rfl, contains, ih]
      simp only [List.any_cons]

end CharSet

end ProxySettings.Unicode
