import Mathlib.Algebra.Group.Nat.Defs
import ProxySettings.Pattern.Size

/-!
# How large patterns are

The compiled size of a pattern is bounded by the intervals of its sets of characters. A literal
character has few of them, so that patterns of a few hundred characters are never too large.
-/

namespace ProxySettings.Pattern

open Unicode (CharSet Run)

theorem length_flatMap_le {α β : Type} {f : α → List β} {l : List α} {k : Nat}
    (h : ∀ a ∈ l, (f a).length ≤ k) : (l.flatMap f).length ≤ l.length * k := by
  induction l with
  | nil => exact Nat.zero_le _
  | cons a l ih =>
    obtain ⟨ha, hl⟩ := List.forall_mem_cons.mp h
    rw [List.flatMap_cons, List.length_append, List.length_cons, Nat.succ_mul, Nat.add_comm]
    exact Nat.add_le_add (ih hl) ha

/-! ## Sets of characters -/

namespace Interval

theorem length_joinFrom_le (a : Interval) (is : List Interval) :
    (joinFrom a is).length ≤ is.length + 1 := by
  induction is generalizing a with
  | nil => exact Nat.le_refl 1
  | cons b rest ih =>
    rw [joinFrom]
    split
    · exact Nat.le_succ_of_le (ih _)
    · exact Nat.succ_le_succ (ih b)

theorem length_normal_le (is : List Interval) : (normal is).length ≤ is.length := by
  rw [normal, ← List.length_mergeSort is]
  split
  · exact Nat.zero_le _
  · next a rest h =>
    rw [h]
    exact length_joinFrom_le a rest

theorem length_gaps_le (next : Nat) (is : List Interval) :
    (gaps next is).length ≤ is.length + 1 := by
  induction is generalizing next with
  | nil =>
    rw [gaps]
    split
    · exact Nat.le_refl 1
    · exact Nat.zero_le 1
  | cons a rest ih =>
    rw [gaps]
    split
    · exact Nat.succ_le_succ (ih _)
    · exact Nat.le_succ_of_le (ih _)

/-- Between intervals there are as many gaps, and the ends and the surrogates add two. -/
theorem length_complement_le (is : List Interval) : (complement is).length ≤ is.length + 2 :=
  Nat.le_trans (length_gaps_le 0 _) (Nat.succ_le_succ (length_normal_le (surrogates :: is)))

end Interval

theorem length_ite_nil_lt {α : Type} {p : Prop} [Decidable p] {l : List α} {n : Nat}
    (h : l.length < n) : (if p then [] else l).length < n := by
  split
  · exact Nat.lt_of_le_of_lt (Nat.zero_le _) h
  · exact h

theorem length_ite_singleton_le {α : Type} {p : Prop} [Decidable p] {a : α} :
    (if p then [a] else []).length ≤ 1 := by
  split
  · exact Nat.le_refl 1
  · exact Nat.zero_le 1

/-- Every further digit at most doubles the blocks, and adds one of all values between. -/
theorem length_blocks_lt (lead k lo hi : Nat) : (blocks lead k lo hi).length < 2 ^ (k + 1) := by
  induction k generalizing lead lo hi with
  | zero => simp [blocks]
  | succ k ih =>
    have hmap (v lo hi : Nat) : ((blocks 0 k lo hi).map ((⟨lead + v, lead + v⟩ : Interval) :: ·)
        ).length < 2 ^ (k + 1) := by
      rw [List.length_map]
      exact ih 0 lo hi
    have hsum {a b c n : Nat} (ha : a < n) (hb : b ≤ 1) (hc : c < n) : a + b + c < n * 2 := by omega
    rw [blocks]
    dsimp only
    split
    · rw [Nat.pow_succ]
      exact Nat.lt_of_lt_of_le (hmap ..) (Nat.le_mul_of_pos_right _ Nat.two_pos)
    · rw [List.length_append, List.length_append, Nat.pow_succ]
      exact hsum (length_ite_nil_lt (hmap ..)) length_ite_singleton_le (length_ite_nil_lt (hmap ..))

theorem length_of_mem_blocks {lead k lo hi : Nat} {s : List Interval}
    (h : s ∈ blocks lead k lo hi) : s.length = k + 1 := by
  induction k generalizing lead lo hi s with
  | zero =>
    rw [blocks, List.mem_singleton] at h
    rw [h]
    rfl
  | succ k ih =>
    have hmap {v lo hi : Nat} {s : List Interval}
        (h : s ∈ (blocks 0 k lo hi).map ((⟨lead + v, lead + v⟩ : Interval) :: ·)) :
        s.length = k + 1 + 1 := by
      obtain ⟨t, ht, rfl⟩ := List.mem_map.mp h
      rw [List.length_cons, ih ht]
    rw [blocks] at h
    dsimp only at h
    split at h
    · exact hmap h
    · simp only [List.mem_append, List.mem_ite_nil_left, List.mem_ite_nil_right,
        List.mem_singleton] at h
      rcases h with (⟨-, h⟩ | ⟨-, rfl⟩) | ⟨-, h⟩
      · exact hmap h
      · simp
      · exact hmap h

theorem length_byteSequences_le (i : Interval) : (byteSequences i).length ≤ 26 := by
  have hpart {p : Prop} [Decidable p] {lead k lo hi : Nat} :
      (if p then blocks lead k lo hi else []).length < 2 ^ (k + 1) := by
    rw [← ite_not]
    exact length_ite_nil_lt (length_blocks_lt lead k lo hi)
  have hsum {a b c d : Nat} (ha : a < 2 ^ 1) (hb : b < 2 ^ 2) (hc : c < 2 ^ 3) (hd : d < 2 ^ 4) :
      a + b + c + d ≤ 26 := by omega
  simp only [byteSequences, List.length_append]
  exact hsum hpart hpart hpart hpart

theorem length_le_of_mem_byteSequences {i : Interval} {s : List Interval}
    (h : s ∈ byteSequences i) : s.length ≤ 4 := by
  simp only [byteSequences, List.mem_append, List.mem_ite_nil_right] at h
  rcases h with ((⟨-, h⟩ | ⟨-, h⟩) | ⟨-, h⟩) | ⟨-, h⟩
  all_goals exact Nat.le_trans (Nat.le_of_eq (length_of_mem_blocks h)) (by decide)

theorem beginnings_le (before : List Interval) {sequences : List (List Interval)} {k : Nat}
    (h : ∀ s ∈ sequences, s.length ≤ k) :
    beginnings before sequences ≤ sequences.length * k := by
  induction sequences generalizing before with
  | nil => exact Nat.zero_le _
  | cons s rest ih =>
    obtain ⟨hs, hrest⟩ := List.forall_mem_cons.mp h
    rw [beginnings, List.length_cons, Nat.succ_mul, Nat.add_comm]
    exact Nat.add_le_add (ih s hrest) (Nat.le_trans (Nat.sub_le ..) hs)

/-- The size of a set is bounded by the number of its intervals: each has at most 26 sequences of at
most four bytes, and a sequence takes 4 and each of its bytes 32. -/
theorem setSize_le (set : CharSet) : setSize set ≤ 64 + 3432 * (Interval.ofSet set).length := by
  have hseveral (is : List Interval) : setSize.several is ≤ 64 + 3432 * is.length := by
    have hlen : (is.flatMap byteSequences).length ≤ is.length * 26 :=
      length_flatMap_le fun i _ ↦ length_byteSequences_le i
    have hsize : beginnings [] (is.flatMap byteSequences) ≤
        (is.flatMap byteSequences).length * 4 := by
      refine beginnings_le [] fun s hs ↦ ?_
      obtain ⟨i, -, hs⟩ := List.mem_flatMap.mp hs
      exact length_le_of_mem_byteSequences hs
    rw [setSize.several]
    dsimp only
    split <;> omega
  rw [setSize]
  split
  · exact Nat.le_add_right 64 _
  · next i hi =>
    have hchar : (Char.ofNat i.first).utf8Size ≤ 4 := Char.utf8Size_le_four _
    split
    · rw [hi, List.length_singleton]
      omega
    · rw [hi]
      exact hseveral [i]
  · exact hseveral _

/-! ## Literal characters -/

namespace Interval

theorem ofSet_single (c : Char) : ofSet (.single c) = [⟨c.toNat, c.toNat⟩] := by
  simp [CharSet.single, ofSet, ofRun, Run.between, normal, joinFrom]

theorem covers_singleton {m n : Nat} : covers [⟨n, n⟩] m = true ↔ m = n := by
  simp [covers]
  omega

theorem first_le_of_mem_ofRun {r : Run} {i : Interval} (h : i ∈ ofRun r) : r.first ≤ i.first := by
  rw [ofRun] at h
  split at h
  · obtain rfl := List.mem_singleton.mp h
    exact Nat.le_refl _
  · obtain ⟨k, -, rfl⟩ := List.mem_map.mp h
    exact Nat.le_add_right _ _

theorem le_of_mem_pairsOf {p : Unicode.PairRun} {members : List Nat} {n : Nat}
    (h : members ∈ pairsOf p) (hn : n ∈ members) : p.firsts.first ≤ n := by
  obtain ⟨i, hi, h⟩ := List.mem_flatMap.mp h
  obtain ⟨k, -, rfl⟩ := List.mem_map.mp h
  have hfirst : p.firsts.first ≤ i.first := first_le_of_mem_ofRun hi
  rw [List.mem_cons, List.mem_singleton] at hn
  omega

theorem filter_covers_eq_nil {n : Nat} {orbits : List (List Nat)}
    (h : ∀ members ∈ orbits, ∀ m ∈ members, n < m) :
    orbits.filter (·.any (covers [⟨n, n⟩])) = [] := by
  simp only [List.filter_eq_nil_iff, List.any_eq_true, covers_singleton, not_exists, not_and]
  exact fun members hm m hmem he ↦ absurd (h members hm m hmem) (he ▸ Nat.lt_irrefl m)

/-- An ASCII code point is in no orbits but the first ones. -/
theorem filter_orbits {n : Nat} (h : n < 0x80) :
    orbits.filter (·.any (covers [⟨n, n⟩])) =
      (Unicode.asciiLargerOrbits ++ Unicode.asciiPairRuns.flatMap pairsOf).filter
        (·.any (covers [⟨n, n⟩])) := by
  obtain ⟨hp, hprest⟩ := Unicode.pairRuns_split
  obtain ⟨hl, hlrest⟩ := Unicode.largerOrbits_split
  have hlarger : (Unicode.largerOrbits.drop 2).filter (·.any (covers [⟨n, n⟩])) = [] :=
    filter_covers_eq_nil fun members hm m hmem ↦ Nat.lt_of_lt_of_le h (hlrest members hm m hmem)
  have hpairs :
      ((Unicode.pairRuns.drop 3).flatMap pairsOf).filter (·.any (covers [⟨n, n⟩])) = [] := by
    refine filter_covers_eq_nil fun members hm m hmem ↦ ?_
    obtain ⟨p, hp, hm⟩ := List.mem_flatMap.mp hm
    exact Nat.lt_of_lt_of_le h (Nat.le_trans (hprest p hp) (le_of_mem_pairsOf hm hmem))
  rw [orbits, ← List.take_append_drop 2 Unicode.largerOrbits,
    ← List.take_append_drop 3 Unicode.pairRuns, hl, hp, List.flatMap_append, List.filter_append,
    List.filter_append, List.filter_append, List.filter_append, hlarger, hpairs, List.append_nil,
    List.append_nil]

/-- A literal ASCII character has at most four intervals: its own and those of its orbit. -/
theorem length_ofSet_folded_le {c : Char} (h : c.toNat < 0x80) :
    (ofSet (.folded (.single c))).length ≤ 4 := by
  have hall : ∀ n < 0x80,
      (((Unicode.asciiLargerOrbits ++ Unicode.asciiPairRuns.flatMap pairsOf).filter
        (·.any (covers [⟨n, n⟩]))).flatMap (·.map fun m ↦ (⟨m, m⟩ : Interval))).length ≤ 3 := by
    decide +kernel
  rw [ofSet, ofSet_single, closeUnder, filter_orbits h]
  refine Nat.le_trans (length_normal_le _) ?_
  rw [List.length_append, List.length_singleton, Nat.add_comm]
  exact Nat.succ_le_succ (hall c.toNat h)

end Interval

theorem setSize_folded_le {c : Char} (h : c.toNat < 0x80) :
    setSize (.folded (.single c)) ≤ 13792 := by
  have hlen := Interval.length_ofSet_folded_le h
  have hsize := setSize_le (.folded (.single c))
  omega

theorem setSize_compl_folded_le {c : Char} (h : c.toNat < 0x80) :
    setSize (.compl (.folded (.single c))) ≤ 20656 := by
  have hlen := Interval.length_ofSet_folded_le h
  have hcompl := Interval.length_complement_le (Interval.ofSet (.folded (.single c)))
  have hsize := setSize_le (.compl (.folded (.single c)))
  rw [Interval.ofSet] at hsize
  omega

namespace Expr

theorem size_seq (d e : Expr Atom) : (seq d e).size = d.size + e.size := by
  rw [size, size, size, sizeIn, sizeIn.branch, if_neg Bool.false_ne_true, Nat.zero_add]

theorem size_char (set : CharSet) : (atom (.char set)).size = setSize set := by
  rw [size, sizeIn, sizeIn.branch, if_neg Bool.false_ne_true, Nat.zero_add]

theorem size_capture (e : Expr Atom) : (capture e).size = e.size + 64 := by
  rw [size, size, sizeIn, sizeIn.branch, if_neg Bool.false_ne_true, Nat.zero_add]

theorem size_look (condition : Look) : (atom (.look condition)).size = 32 := rfl

theorem size_seqs_le {es : List (Expr Atom)} {k : Nat} (h : ∀ e ∈ es, e.size ≤ k) :
    (seqs es).size ≤ 32 + es.length * k := by
  induction es with
  | nil => exact Nat.le_add_right 32 _
  | cons e rest ih =>
    obtain ⟨he, hrest⟩ := List.forall_mem_cons.mp h
    cases rest with
    | nil =>
      rw [List.length_singleton, Nat.one_mul]
      exact Nat.le_trans he (Nat.le_add_left k 32)
    | cons f rest =>
      have hsize := size_seq e (seqs (f :: rest))
      have hseqs := ih hrest
      rw [List.length_cons, Nat.succ_mul]
      change (seq e (seqs (f :: rest))).size ≤ _
      omega

end Expr

end ProxySettings.Pattern
