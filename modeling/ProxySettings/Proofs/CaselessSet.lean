import ProxySettings.Pattern.Search

/-!
# Sets and searches without regard to case

A set is caseless if it has the two cases of an ASCII letter together. Folding makes a set caseless,
and Boolean operations on caseless sets keep it so. An expression whose sets are all caseless is
found in a text exactly if it is found in that text with other cases of its letters: the conditions
on places only ask for words and for the ends of lines, and these are caseless too.
-/

namespace ProxySettings

/-! ## Caseless sets -/

namespace Unicode

theorem otherAsciiCase_eq {c d : Char} (hlow : 65 ≤ c.toNat) (hhigh : c.toNat ≤ 90)
    (hd : d.toNat = c.toNat + 32) : otherAsciiCase c = d ∧ otherAsciiCase d = c := by
  have hc : c.isUpper = true :=
    decide_eq_true ⟨UInt32.le_iff_toNat_le.mpr hlow, UInt32.le_iff_toNat_le.mpr hhigh⟩
  have hdn : d.isUpper = false := by
    refine decide_eq_false fun h ↦ ?_
    have : d.toNat ≤ 90 := UInt32.le_iff_toNat_le.mp h.2
    omega
  rw [otherAsciiCase, otherAsciiCase, if_pos hc, hdn, if_neg Bool.false_ne_true,
    ← Char.toNat_inj, ← Char.toNat_inj, Text.toNat_toLower, Text.toNat_toUpper]
  split <;> split <;> omega

namespace CharSet

/-- Characters that are equal up to the case of ASCII letters are members together. -/
def IsCaseless (s : CharSet) : Prop :=
  ∀ c d : Char, c.toLower = d.toLower → s.contains c = s.contains d

variable {a b : CharSet}

/-- It is enough to compare each capital with its lower case. -/
theorem isCaseless_of_capitals (h : ∀ c d : Char, 65 ≤ c.toNat → c.toNat ≤ 90 →
    d.toNat = c.toNat + 32 → a.contains c = a.contains d) : a.IsCaseless := by
  intro c d hcd
  obtain rfl | ⟨hlow, hhigh, hd⟩ | ⟨hlow, hhigh, hc⟩ := Text.toLower_eq_toLower_iff.mp hcd
  · rfl
  · exact h c d hlow hhigh hd
  · exact (h d c hlow hhigh hc).symm

/-- A set that has all letters or none of them is caseless. -/
theorem isCaseless_of_letters {v : Bool} (h : ∀ c : Char, 65 ≤ c.toNat ∧ c.toNat ≤ 90 ∨
    97 ≤ c.toNat ∧ c.toNat ≤ 122 → a.contains c = v) : a.IsCaseless := by
  refine isCaseless_of_capitals fun c d hlow hhigh hd ↦ ?_
  rw [h c (.inl ⟨hlow, hhigh⟩), h d (.inr (by omega))]

theorem isCaseless_runs {rs : List Run} (h : ∀ r ∈ rs, r.last < 65 ∨ 122 < r.first) :
    (runs rs).IsCaseless :=
  isCaseless_of_letters fun c hc ↦ Run.any_contains_eq_false_of_outside h (by omega)

theorem IsCaseless.compl (h : a.IsCaseless) : (compl a).IsCaseless := fun c d hcd ↦
  congrArg (!·) (h c d hcd)

theorem IsCaseless.union (ha : a.IsCaseless) (hb : b.IsCaseless) : (union a b).IsCaseless := by
  intro c d hcd
  rw [contains, contains, ha c d hcd, hb c d hcd]

/-- Folding adds the characters of the same orbit, and the cases of a letter have one orbit. -/
theorem isCaseless_folded (a : CharSet) : (folded a).IsCaseless := by
  intro c d hcd
  rw [Bool.eq_iff_iff, contains, contains, List.any_eq_true, List.any_eq_true]
  simp only [mem_orbit_congr hcd]

/-- Within ASCII, folding a character adds its other case only. -/
theorem contains_folded_single_of_ascii {c d : Char} (hc : c.toNat < 0x80) (hd : d.toNat < 0x80) :
    (folded (single c)).contains d = true ↔ c.toLower = d.toLower := by
  rw [contains, List.any_eq_true, ← mem_orbit_iff_of_ascii hd hc]
  simp only [contains_single, exists_eq_right]

theorem isCaseless_asciiFolded (a : CharSet) : (asciiFolded a).IsCaseless := by
  refine isCaseless_of_capitals fun c d hlow hhigh hd ↦ ?_
  obtain ⟨hc, hd⟩ := otherAsciiCase_eq hlow hhigh hd
  rw [contains, contains, hc, hd, Bool.or_comm]

end CharSet

end Unicode

namespace Pattern

open Unicode (CharSet Run)

/-! ## The sets that patterns name -/

theorem isCaseless_digitSet (f : Flags) : (digitSet f).IsCaseless := by
  rw [digitSet]
  split
  · exact CharSet.isCaseless_of_letters fun c hc ↦
      Unicode.Category.contains_decimalNumber_of_between (by omega)
  · exact CharSet.isCaseless_runs (by decide)

theorem isCaseless_blankSet (f : Flags) : (blankSet f).IsCaseless := by
  rw [blankSet]
  split
  · exact CharSet.isCaseless_of_letters fun c hc ↦
      Unicode.Property.contains_whiteSpace_of_between (by omega)
  · exact CharSet.isCaseless_runs (by decide)

theorem contains_asciiWordSet {c : Char}
    (h : 65 ≤ c.toNat ∧ c.toNat ≤ 90 ∨ 97 ≤ c.toNat ∧ c.toNat ≤ 122) :
    asciiWordSet.contains c = true := by
  simp only [asciiWordSet, CharSet.contains, List.any_cons, List.any_nil, Bool.or_false,
    Bool.or_eq_true, Run.contains_between]
  omega

theorem isCaseless_asciiWordSet : asciiWordSet.IsCaseless :=
  CharSet.isCaseless_of_letters fun _ ↦ contains_asciiWordSet

theorem isCaseless_wordSet : wordSet.IsCaseless :=
  CharSet.isCaseless_of_letters fun c hc ↦ by
    rw [wordSet, CharSet.contains_unions, List.any_cons, contains_asciiWordSet hc, Bool.true_or]

section Flags

variable {f : Flags} {set closed : CharSet}

theorem Flags.isCaseless_fold (h : f.anyCase = true) (set : CharSet) :
    (f.fold set).IsCaseless := by
  rw [fold, if_pos h]
  split
  · exact CharSet.isCaseless_folded set
  · exact CharSet.isCaseless_asciiFolded set

/-- What is allowed stays as it is. -/
theorem Flags.eq_of_allow (h : f.allow set = some closed) : set = closed :=
  Option.some_inj.mp (Option.ite_none_right_eq_some.mp h).2

theorem Flags.isCaseless_close (hf : f.anyCase = true) {negated : Bool}
    (h : f.close negated set = some closed) : closed.IsCaseless := by
  rw [← eq_of_allow h]
  cases negated with
  | true => exact (isCaseless_fold hf set).compl
  | false => exact isCaseless_fold hf set

end Flags

/-! ## Searches -/

section Search

variable {before after before' after' : Option Char} {text text' : List Char}

theorem any_contains_congr {set : CharSet} (hset : set.IsCaseless)
    (h : before.map Char.toLower = before'.map Char.toLower) :
    before.any set.contains = before'.any set.contains := by
  match before, before', h with
  | none, none, _ => rfl
  | some c, some d, h => exact hset c d (Option.some_inj.mp h)

theorem isWordAt_congr (ascii : Bool) (h : before.map Char.toLower = before'.map Char.toLower) :
    isWordAt ascii before = isWordAt ascii before' := by
  match before, before', h with
  | none, none, _ => rfl
  | some c, some d, h =>
    have hcd : c.toLower = d.toLower := Option.some_inj.mp h
    rw [isWordAt, isWordAt, isCaseless_asciiWordSet c d hcd, isCaseless_wordSet c d hcd]

/-- A condition does not tell the cases of letters apart. -/
theorem Look.holds_congr (l : Look) (hb : before.map Char.toLower = before'.map Char.toLower)
    (ha : after.map Char.toLower = after'.map Char.toLower) :
    l.holds before after = l.holds before' after' := by
  -- No capital and no lower case is one of the characters at line ends.
  have hend {p q : Option Char} (h : p.map Char.toLower = q.map Char.toLower) (e : Char)
      (he : e.toNat < 65) : (p == some e) = (q == some e) := by
    match p, q, h with
    | none, none, _ => rfl
    | some c, some d, h =>
      have hcd := Text.toLower_eq_toLower_iff.mp (Option.some_inj.mp h)
      rw [Bool.eq_iff_iff, beq_iff_eq, beq_iff_eq, Option.some_inj, Option.some_inj,
        ← Char.toNat_inj, ← Char.toNat_inj]
      rw [← Char.toNat_inj] at hcd
      omega
  have hnone {p q : Option Char} (h : p.map Char.toLower = q.map Char.toLower) :
      p.isNone = q.isNone := by
    rw [← Option.isNone_map, h, Option.isNone_map]
  have hfeed {p q : Option Char} (h : p.map Char.toLower = q.map Char.toLower) :
      (p == some '\n') = (q == some '\n') := hend h '\n' (by decide)
  have hreturn {p q : Option Char} (h : p.map Char.toLower = q.map Char.toLower) :
      (p == some '\r') = (q == some '\r') := hend h '\r' (by decide)
  cases l with
  | textStart => exact hnone hb
  | textEnd => exact hnone ha
  | lineStart returns =>
    cases returns <;> simp only [holds, bne, hnone hb, hfeed hb, hfeed ha, hreturn hb]
  | lineEnd returns =>
    cases returns <;> simp only [holds, bne, hnone ha, hfeed ha, hreturn ha, hreturn hb]
  | word place ascii => simp only [holds, isWordAt_congr ascii hb, isWordAt_congr ascii ha]

/-- An atom that consumes only characters of a caseless set. -/
def Atom.IsCaseless : Atom → Prop
  | char set => set.IsCaseless
  | look _ => True

/-- All sets of an expression are caseless. -/
def Expr.IsCaseless : Expr Atom → Prop
  | empty => True
  | atom a => a.IsCaseless
  | seq d e => d.IsCaseless ∧ e.IsCaseless
  | alt d e => d.IsCaseless ∧ e.IsCaseless
  | rep e _ _ => e.IsCaseless
  | capture e => e.IsCaseless

theorem length_congr (h : text.map Char.toLower = text'.map Char.toLower) :
    text.length = text'.length := by
  rw [← List.length_map Char.toLower, h, List.length_map]

theorem getElem?_congr (h : text.map Char.toLower = text'.map Char.toLower) (i : Nat) :
    text[i]?.map Char.toLower = text'[i]?.map Char.toLower := by
  rw [← List.getElem?_map, h, List.getElem?_map]

/-- A caseless atom moves alike in texts that are equal up to case. -/
theorem Atom.move_congr {a : Atom} (ha : a.IsCaseless)
    (h : text.map Char.toLower = text'.map Char.toLower) :
    a.move text.toArray = a.move text'.toArray := by
  have hlen := length_congr h
  cases a with
  | char set =>
    simp only [move, List.size_toArray, List.getElem?_toArray, hlen,
      any_contains_congr ha (getElem?_congr h _)]
  | look l =>
    have hbefore (i : Nat) : (if i = 0 then none else text[i - 1]?).map Char.toLower =
        (if i = 0 then none else text'[i - 1]?).map Char.toLower := by
      split
      · rfl
      · exact getElem?_congr h _
    simp only [move, List.size_toArray, List.getElem?_toArray, hlen,
      l.holds_congr (hbefore _) (getElem?_congr h _)]

theorem Expr.map_move_congr {e : Expr Atom} (he : e.IsCaseless)
    (h : text.map Char.toLower = text'.map Char.toLower) :
    e.map (Atom.move text.toArray) = e.map (Atom.move text'.toArray) := by
  induction e with
  | empty => rfl
  | atom a => exact congrArg Expr.atom (Atom.move_congr he h)
  | seq d e ihd ihe => rw [map, map, ihd he.1, ihe he.2]
  | alt d e ihd ihe => rw [map, map, ihd he.1, ihe he.2]
  | rep e min max ih => exact congrArg (Expr.rep · min max) (ih he)
  | capture e ih => exact congrArg Expr.capture (ih he)

/-- A search for a caseless expression does not regard case. -/
theorem Expr.search_congr {e : Expr Atom} (he : e.IsCaseless)
    (h : text.map Char.toLower = text'.map Char.toLower) : e.search text = e.search text' := by
  rw [search, search, List.size_toArray, List.size_toArray, length_congr h, map_move_congr he h]

end Search

end Pattern

end ProxySettings
