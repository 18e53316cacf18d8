import ProxySettings.Text.Ascii
import ProxySettings.Text.Blank

/-!
# Runs of code points

A run is an arithmetic progression of code points. Tables of characters are written as texts of runs
separated by blanks: `41` is one code point, `41-5a` are consecutive ones, and in `100-12e/2` every
second one counts. All numbers are hexadecimal.
-/

namespace ProxySettings.Unicode

/-- The code points `first`, `first + stride`, and so on up to `last`. -/
structure Run where
  first : Nat
  last : Nat
  stride : Nat
  deriving Repr, DecidableEq

namespace Run

/-- A code point of the run. -/
def contains (r : Run) (n : Nat) : Bool :=
  r.first ≤ n && n ≤ r.last && (n - r.first) % r.stride == 0

/-- Consecutive code points, ends included. -/
def between (first last : Nat) : Run := ⟨first, last, 1⟩

private def hex (cs : List Char) : Nat := (Text.number? 16 cs).getD 0

/-- One run from its text. -/
def ofText (cs : List Char) : Run :=
  let (span, stride) := (Text.cutAt '/' cs).getD (cs, ['1'])
  let (first, last) := (Text.cutAt '-' span).getD (span, span)
  ⟨hex first, hex last, hex stride⟩

/-- The runs of a table text. -/
def table (text : String) : List Run :=
  (Text.wordsOf text.toList).map ofText

/-- What the runs written in a text have in common holds of all runs of the table. -/
theorem forall_mem_table {P : Run → Prop} {cs : List Char}
    (h : ∀ r ∈ (Text.wordsOf cs).map ofText, P r) : ∀ r ∈ table (String.ofList cs), P r := by
  rwa [table, String.toList_ofList]

theorem contains_eq_false_of_lt {r : Run} {n : Nat} (h : n < r.first) : r.contains n = false := by
  rw [contains, decide_eq_false (Nat.not_le.mpr h), Bool.false_and, Bool.false_and]

/-- No run has a code point below those where all of them start. -/
theorem any_contains_eq_false {runs : List Run} {start n : Nat}
    (h : ∀ r ∈ runs, start ≤ r.first) (hn : n < start) :
    runs.any (·.contains n) = false := by
  rw [List.any_eq_false]
  intro r hr
  rw [contains_eq_false_of_lt (Nat.lt_of_lt_of_le hn (h r hr))]
  exact Bool.false_ne_true

/-- No run has a code point in a span that all of them end before or start after. -/
theorem any_contains_eq_false_of_outside {runs : List Run} {start stop n : Nat}
    (h : ∀ r ∈ runs, r.last < start ∨ stop < r.first) (hn : start ≤ n ∧ n ≤ stop) :
    runs.any (·.contains n) = false := by
  rw [List.any_eq_false]
  intro r hr hc
  simp only [contains, Bool.and_eq_true, decide_eq_true_eq] at hc
  have := h r hr
  omega

theorem contains_between (first last n : Nat) :
    (between first last).contains n = true ↔ first ≤ n ∧ n ≤ last := by
  show (decide (first ≤ n) && decide (n ≤ last) && (n - first) % 1 == 0) = true ↔ _
  simp [Nat.mod_one]

end Run

end ProxySettings.Unicode
