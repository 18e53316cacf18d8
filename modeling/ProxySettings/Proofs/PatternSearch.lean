import Mathlib.Logic.Function.Iterate
import ProxySettings.Pattern.Search

/-!
# What a search finds

An expression leads from the places where a part of the text starts to the places where it may end.
The search follows sets of places, stops early and bounds its rounds; it finds exactly the texts in
which the expression leads from some place to some place.
-/

namespace ProxySettings.Pattern

/-! ## The parts that an expression matches -/

/-- An atom leads past a character of its set, or stays at a place where its condition holds. -/
inductive Atom.Spans (text : List Char) : Atom → Nat → Nat → Prop
  | char {set : Unicode.CharSet} {c : Char} {i : Nat} (hc : text[i]? = some c)
      (h : set.contains c = true) : Spans text (.char set) i (i + 1)
  | look {condition : Look} {i : Nat} (hi : i ≤ text.length)
      (h : condition.holds (if i = 0 then none else text[i - 1]?) text[i]? = true) :
      Spans text (.look condition) i i

/-- A relation between places, followed a number of times. -/
inductive Rounds (R : Nat → Nat → Prop) : Nat → Nat → Nat → Prop
  | none (i : Nat) : Rounds R 0 i i
  | more {n i k j : Nat} (h : R i k) (hr : Rounds R n k j) : Rounds R (n + 1) i j

/-- An expression matches the part of a text from one place to another. A repetition with an upper
bound below its lower one has exactly the lower one. -/
def Expr.Spans (text : List Char) : Expr Atom → Nat → Nat → Prop
  | empty, i, j => i = j
  | atom a, i, j => a.Spans text i j
  | seq d e, i, j => ∃ k, d.Spans text i k ∧ e.Spans text k j
  | alt d e, i, j => d.Spans text i j ∨ e.Spans text i j
  | rep e min max, i, j =>
    ∃ extra, (∀ m ∈ max, extra ≤ m - min) ∧ Rounds (e.Spans text) (min + extra) i j
  | capture e, i, j => e.Spans text i j

section Rounds

variable {R : Nat → Nat → Prop} {m n i j : Nat}

theorem rounds_zero_iff : Rounds R 0 i j ↔ i = j := by
  constructor
  · rintro ⟨⟩
    rfl
  · rintro rfl
    exact .none i

theorem rounds_succ_iff : Rounds R (n + 1) i j ↔ ∃ k, R i k ∧ Rounds R n k j := by
  constructor
  · rintro (_ | ⟨h, hr⟩)
    exact ⟨_, h, hr⟩
  · rintro ⟨k, h, hr⟩
    exact .more h hr

theorem rounds_add_iff : Rounds R (m + n) i j ↔ ∃ k, Rounds R m i k ∧ Rounds R n k j := by
  induction m generalizing i with
  | zero =>
    rw [Nat.zero_add]
    simp only [rounds_zero_iff, exists_eq_left']
  | succ m ih =>
    rw [Nat.add_right_comm, rounds_succ_iff]
    simp only [ih, rounds_succ_iff]
    constructor
    · rintro ⟨l, h, k, hl, hk⟩
      exact ⟨k, ⟨l, h, hl⟩, hk⟩
    · rintro ⟨k, ⟨l, h, hl⟩, hk⟩
      exact ⟨l, h, k, hl, hk⟩

end Rounds

/-! ## Where a part ends

A part never ends before it starts, and unless it is empty it ends within the text. So the rounds of
a repetition that consume something are at most as many as there are characters, and the others can
be left out.
-/

/-- A relation that leads nowhere but forward and within a length. -/
def IsForward (length : Nat) (R : Nat → Nat → Prop) : Prop :=
  ∀ i j, R i j → i = j ∨ i < j ∧ j ≤ length

section Forward

variable {length : Nat} {R : Nat → Nat → Prop}

theorem IsForward.rounds (h : IsForward length R) (n : Nat) : IsForward length (Rounds R n) := by
  intro i j hr
  induction hr with
  | none i => exact .inl rfl
  | more hk _ ih =>
    have := h _ _ hk
    omega

/-- Rounds that stay where they are can be left out. -/
theorem IsForward.exists_rounds_le (h : IsForward length R) {n i j : Nat} (hr : Rounds R n i j) :
    ∃ k ≤ j - i, Rounds R k i j := by
  -- The number of rounds that are kept is bounded by the way that is left.
  induction hr with
  | none i => exact ⟨0, Nat.zero_le _, .none i⟩
  | @more n i m j hk hr ih =>
    obtain ⟨k, hle, hk'⟩ := ih
    obtain rfl | ⟨hlt, -⟩ := h i m hk
    · exact ⟨k, hle, hk'⟩
    · have hmj : m = j ∨ m < j ∧ j ≤ length := h.rounds n m j hr
      exact ⟨k + 1, by omega, .more hk hk'⟩

end Forward

variable {text : List Char}

theorem Expr.isForward_spans (e : Expr Atom) : IsForward text.length (e.Spans text) := by
  induction e with
  | empty => exact fun i j h ↦ .inl h
  | atom a =>
    rintro i j (⟨hc, -⟩ | _)
    · have hi : i < text.length := (List.getElem?_eq_some_iff.mp hc).1
      omega
    · exact .inl rfl
  | seq d e ihd ihe =>
    rintro i j ⟨k, hd, he⟩
    have := ihd i k hd
    have := ihe k j he
    omega
  | alt d e ihd ihe => exact fun i j h ↦ h.elim (ihd i j) (ihe i j)
  | rep e min max ih =>
    rintro i j ⟨extra, -, hr⟩
    exact ih.rounds _ i j hr
  | capture e ih => exact ih

/-! ## Sets of places -/

theorem testBit_placesWhere (p : Nat → Bool) (n i : Nat) :
    (placesWhere p n).testBit i = (decide (i < n) && p i) := by
  induction n with
  | zero => simp [placesWhere]
  | succ n ih =>
    rw [placesWhere, Nat.testBit_or, ih, Nat.one_shiftLeft]
    rcases Nat.lt_trichotomy i n with h | rfl | h
    -- Only the last place tells whether it is kept; the others are as before.
    · have hn : n ≠ i := Nat.ne_of_gt h
      split <;> simp [h, hn, Nat.lt_succ_of_lt h]
    · split <;> simp [*]
    · have hn : n ≠ i := Nat.ne_of_lt h
      split <;> simp [hn, Nat.not_lt.mpr (Nat.succ_le_of_lt h), Nat.not_lt_of_gt h]

/-- A step takes each set of places to the places where a relation leads from it. -/
def Follows (step : Places → Places) (R : Nat → Nat → Prop) : Prop :=
  ∀ s j, (step s).testBit j = true ↔ ∃ i, s.testBit i = true ∧ R i j

section Follows

variable {step step' : Places → Places} {R R' : Nat → Nat → Prop}

theorem Follows.comp (h : Follows step R) (h' : Follows step' R') :
    Follows (fun s ↦ step' (step s)) fun i j ↦ ∃ k, R i k ∧ R' k j := by
  intro s j
  rw [h']
  simp only [h s]
  constructor
  · rintro ⟨k, ⟨i, hi, hR⟩, hR'⟩
    exact ⟨i, hi, k, hR, hR'⟩
  · rintro ⟨i, hi, k, hR, hR'⟩
    exact ⟨k, ⟨i, hi, hR⟩, hR'⟩

theorem Follows.or (h : Follows step R) (h' : Follows step' R') :
    Follows (fun s ↦ step s ||| step' s) fun i j ↦ R i j ∨ R' i j := by
  intro s j
  rw [Nat.testBit_or, Bool.or_eq_true, h, h', ← exists_or]
  simp only [and_or_left]

theorem Follows.congr (h : Follows step R) (hR : ∀ i j, R i j ↔ R' i j) : Follows step R' := by
  intro s j
  rw [h]
  simp only [hR]

theorem iterate_eq (step : Places → Places) (n : Nat) (s : Places) :
    iterate step n s = step^[n] s := by
  induction n generalizing s with
  | zero => rfl
  | succ n ih =>
    rw [iterate, Function.iterate_succ_apply]
    split
    next h => rw [h, Function.iterate_fixed h]
    next => exact ih _

theorem Follows.iterate (h : Follows step R) (n : Nat) : Follows (iterate step n) (Rounds R n) := by
  intro s j
  rw [iterate_eq]
  induction n generalizing s with
  | zero => simp only [Function.iterate_zero_apply, rounds_zero_iff, exists_eq_right]
  | succ n ih =>
    rw [Function.iterate_succ_apply, ih]
    simp only [h s, rounds_succ_iff]
    constructor
    · rintro ⟨k, ⟨i, hi, hk⟩, hr⟩
      exact ⟨i, hi, k, hk, hr⟩
    · rintro ⟨i, hi, k, hk, hr⟩
      exact ⟨k, ⟨i, hi, hk⟩, hr⟩

/-- Rounds do not lead out of a set that a step adds nothing to. -/
theorem Follows.testBit_of_rounds (h : Follows step R) {s : Places} (hs : s ||| step s = s)
    {n i j : Nat} (hr : Rounds R n i j) (hi : s.testBit i = true) : s.testBit j = true := by
  induction hr with
  | none i => exact hi
  | more hk _ ih =>
    apply ih
    rw [← hs, Nat.testBit_or, Bool.or_eq_true]
    exact .inr ((h _ _).mpr ⟨_, hi, hk⟩)

theorem Follows.collect (h : Follows step R) (n : Nat) :
    Follows (collect step n) fun i j ↦ ∃ k ≤ n, Rounds R k i j := by
  intro s j
  induction n generalizing s with
  | zero =>
    simp only [Pattern.collect, Nat.le_zero, exists_eq_left, rounds_zero_iff, exists_eq_right]
  | succ n ih =>
    rw [Pattern.collect]
    split
    next hs =>
      constructor
      · intro hj
        exact ⟨j, hj, 0, Nat.zero_le _, .none j⟩
      · rintro ⟨i, hi, k, -, hr⟩
        exact h.testBit_of_rounds hs hr hi
    next =>
      rw [ih]
      simp only [Nat.testBit_or, Bool.or_eq_true, h s]
      constructor
      · rintro ⟨i, hi | ⟨i', hi', hR⟩, k, hk, hr⟩
        · exact ⟨i, hi, k, Nat.le_succ_of_le hk, hr⟩
        · exact ⟨i', hi', k + 1, Nat.succ_le_succ hk, .more hR hr⟩
      · rintro ⟨i, hi, k, hk, hr⟩
        match k with
        | 0 => exact ⟨i, .inl hi, 0, Nat.zero_le _, hr⟩
        | k + 1 =>
          obtain ⟨m, hR, hr⟩ := rounds_succ_iff.mp hr
          exact ⟨m, .inr ⟨i, hi, hR⟩, k, Nat.le_of_succ_le_succ hk, hr⟩

end Follows

/-! ## Searching -/

theorem Atom.spans_char_iff {set : Unicode.CharSet} {i j : Nat} :
    Spans text (.char set) i j ↔ j = i + 1 ∧ text[i]?.any set.contains = true := by
  rw [Option.any_eq_true]
  constructor
  · rintro ⟨hc, h⟩
    exact ⟨rfl, _, hc, h⟩
  · rintro ⟨rfl, c, hc, h⟩
    exact .char hc h

theorem Atom.spans_look_iff {condition : Look} {i j : Nat} :
    Spans text (.look condition) i j ↔ j = i ∧ i < text.length + 1 ∧
      condition.holds (if i = 0 then none else text[i - 1]?) text[i]? = true := by
  rw [Nat.lt_succ_iff]
  constructor
  · rintro (_ | ⟨hi, h⟩)
    exact ⟨rfl, hi, h⟩
  · rintro ⟨rfl, hi, h⟩
    exact .look hi h

theorem Atom.follows_apply_move (a : Atom) :
    Follows (a.move text.toArray).apply (a.Spans text) := by
  intro s j
  cases a with
  | char set =>
    have hset (i : Nat) : (decide (i < text.length) && text[i]?.any set.contains) =
        text[i]?.any set.contains := by
      rcases Nat.lt_or_ge i text.length with hi | hi
      · rw [decide_eq_true hi, Bool.true_and]
      · rw [List.getElem?_eq_none hi, Option.any_none, Bool.and_false]
    simp only [move, Move.apply, Nat.testBit_shiftLeft, Nat.testBit_and, testBit_placesWhere,
      List.size_toArray, List.getElem?_toArray, hset, spans_char_iff, Bool.and_eq_true,
      decide_eq_true_eq]
    constructor
    · rintro ⟨hj, hs, hc⟩
      exact ⟨j - 1, hs, (Nat.sub_add_cancel hj).symm, hc⟩
    · rintro ⟨i, hs, rfl, hc⟩
      exact ⟨Nat.le_add_left 1 i, hs, hc⟩
  | look condition =>
    simp only [move, Move.apply, Nat.testBit_and, testBit_placesWhere, List.size_toArray,
      List.getElem?_toArray, spans_look_iff, Bool.and_eq_true, decide_eq_true_eq]
    constructor
    · rintro ⟨hs, hj, hc⟩
      exact ⟨j, hs, rfl, hj, hc⟩
    · rintro ⟨_, hs, rfl, hj, hc⟩
      exact ⟨hs, hj, hc⟩

/-- Without an upper bound, as many further rounds as the text has characters are enough. -/
theorem Expr.spans_rep_none_iff {e : Expr Atom} {min i j rounds : Nat}
    (h : text.length ≤ rounds) : (rep e min none).Spans text i j ↔
      ∃ k, Rounds (e.Spans text) min i k ∧ ∃ n ≤ rounds, Rounds (e.Spans text) n k j := by
  simp only [Spans, rounds_add_iff]
  constructor
  · rintro ⟨extra, -, k, hk, hr⟩
    obtain ⟨n, hn, hr⟩ := e.isForward_spans.exists_rounds_le hr
    have := e.isForward_spans.rounds n k j hr
    exact ⟨k, hk, n, by omega, hr⟩
  · rintro ⟨k, hk, n, -, hr⟩
    exact ⟨n, nofun, k, hk, hr⟩

theorem Expr.spans_rep_some_iff {e : Expr Atom} {min max i j : Nat} :
    (rep e min (some max)).Spans text i j ↔
      ∃ k, Rounds (e.Spans text) min i k ∧ ∃ n ≤ max - min, Rounds (e.Spans text) n k j := by
  simp only [Spans, rounds_add_iff, Option.mem_some_iff, forall_eq']
  constructor
  · rintro ⟨n, hn, k, hk, hr⟩
    exact ⟨k, hk, n, hn, hr⟩
  · rintro ⟨k, hk, n, hn, hr⟩
    exact ⟨n, hn, k, hk, hr⟩

/-- Following sets of places is following the parts that an expression matches. -/
theorem Expr.follows_reach (e : Expr Atom) {rounds : Nat} (h : text.length ≤ rounds) :
    Follows ((e.map (Atom.move text.toArray)).reach rounds) (e.Spans text) := by
  induction e with
  | empty =>
    intro s j
    simp only [Expr.map, reach, Spans, exists_eq_right]
  | atom a => exact a.follows_apply_move
  | seq d e ihd ihe => exact ihd.comp ihe
  | alt d e ihd ihe => exact ihd.or ihe
  | rep e min max ih =>
    cases max with
    | none =>
      exact ((ih.iterate min).comp (ih.collect rounds)).congr fun i j ↦
        (spans_rep_none_iff h).symm
    | some max =>
      exact ((ih.iterate min).comp (ih.collect (max - min))).congr fun i j ↦
        spans_rep_some_iff.symm
  | capture e ih => exact ih

theorem ne_zero_iff_exists_testBit {s : Places} : s ≠ 0 ↔ ∃ j, s.testBit j = true := by
  constructor
  · exact Nat.exists_testBit_of_ne_zero
  · rintro ⟨j, hj⟩ rfl
    rw [Nat.zero_testBit] at hj
    cases hj

/-- A search succeeds exactly if the expression matches some part of the text. -/
theorem Expr.search_eq_true_iff {e : Expr Atom} :
    e.search text = true ↔ ∃ i j, i ≤ text.length ∧ e.Spans text i j := by
  rw [search, bne_iff_ne, ne_zero_iff_exists_testBit, List.size_toArray]
  simp only [e.follows_reach (Nat.le_succ text.length) _ _, testBit_placesWhere, Bool.and_true,
    decide_eq_true_eq, Nat.lt_succ_iff]
  exact exists_comm

end ProxySettings.Pattern
