import Mathlib.Data.List.TakeDrop
import Mathlib.Data.List.TakeWhile
import ProxySettings.Text.Blank

/-!
# Pieces and words of a text

A text is cut where it first leaves a class of characters. A text with one separator has the two
pieces around it. The words of a text are what is left between blanks; a text of two words is the
two words with blanks between and around them.
-/

namespace ProxySettings.Text

/-! ## Cuts -/

/-- A text is cut where it first leaves a class of characters. -/
theorem span_eq_iff {p : Char → Bool} {cs before after : List Char} :
    cs.span p = (before, after) ↔
      cs = before ++ after ∧ (∀ c ∈ before, p c = true) ∧ ∀ c ∈ after.head?, p c = false := by
  rw [List.span_eq_takeWhile_dropWhile, Prod.mk.injEq]
  constructor
  · rintro ⟨rfl, rfl⟩
    refine ⟨List.takeWhile_append_dropWhile.symm, fun c hc ↦ List.mem_takeWhile_imp hc, ?_⟩
    intro c hc
    have h := List.head?_dropWhile_not p cs
    rw [Option.mem_def.mp hc] at h
    exact h
  · rintro ⟨rfl, hb, ha⟩
    rw [List.takeWhile_append_of_pos hb, List.dropWhile_append_of_pos hb]
    cases after with
    | nil => simp
    | cons c after =>
      have hc : ¬p c = true := by rw [ha c rfl]; decide
      rw [List.takeWhile_cons_of_neg hc, List.dropWhile_cons_of_neg hc, List.append_nil]
      exact ⟨rfl, rfl⟩

/-! ## Pieces -/

/-- Splitting is the library's splitting. -/
theorem splitOnAll_eq_splitOnP (p : Char → Bool) (cs : List Char) :
    splitOnAll p cs = cs.splitOnP p := by
  induction cs with
  | nil => rfl
  | cons c cs ih =>
    rw [splitOnAll, ih, List.splitOnP_cons_eq_if_modifyHead]
    split
    · rfl
    · split
      · next h => exact absurd h (List.splitOnP_ne_nil p cs)
      · next h => rw [h, List.modifyHead_cons]

/-- A separator divides the pieces. -/
theorem splitOnAll_append_cons {p : Char → Bool} {sep : Char} (hsep : p sep = true)
    (before after : List Char) :
    splitOnAll p (before ++ sep :: after) = splitOnAll p before ++ splitOnAll p after := by
  simp only [splitOnAll_eq_splitOnP]
  exact List.splitOnP_append_cons before after hsep

/-- A text without separators is one piece. -/
theorem splitOnAll_eq_singleton {p : Char → Bool} {cs : List Char}
    (h : ∀ c ∈ cs, p c = false) : splitOnAll p cs = [cs] := by
  rw [splitOnAll_eq_splitOnP, List.splitOnP_eq_singleton h]

theorem splitOnAll_ne_nil (p : Char → Bool) (cs : List Char) : splitOnAll p cs ≠ [] := by
  rw [splitOnAll_eq_splitOnP]
  exact List.splitOnP_ne_nil p cs

/-- No piece has a separator. -/
theorem eq_false_of_mem_splitOnAll {p : Char → Bool} {cs piece : List Char} {c : Char}
    (hp : piece ∈ splitOnAll p cs) (hc : c ∈ piece) : p c = false := by
  induction cs generalizing piece with
  | nil =>
    obtain rfl := List.mem_singleton.mp hp
    cases hc
  | cons d cs ih =>
    rw [splitOnAll] at hp
    split at hp
    · rcases List.mem_cons.mp hp with rfl | hp
      · cases hc
      · exact ih hp hc
    · next hd =>
      split at hp
      · next h => exact absurd h (splitOnAll_ne_nil p cs)
      · next first rest h =>
        rw [h] at ih
        rcases List.mem_cons.mp hp with rfl | hp
        · rcases List.mem_cons.mp hc with rfl | hc
          · exact Bool.eq_false_iff.mpr hd
          · exact ih List.mem_cons_self hc
        · exact ih (List.mem_cons_of_mem _ hp) hc

/-- Pieces with a separator between them are the pieces again. -/
theorem splitOnAll_intercalate {sep : Char} {pieces : List (List Char)}
    (h : ∀ piece ∈ pieces, sep ∉ piece) (hne : pieces ≠ []) :
    splitOnAll (· == sep) ([sep].intercalate pieces) = pieces := by
  rw [splitOnAll_eq_splitOnP]
  exact List.splitOn_intercalate sep h hne

/-- A character between pieces or of one of them. -/
theorem eq_or_exists_of_mem_intercalate {sep c : Char} {pieces : List (List Char)}
    (h : c ∈ [sep].intercalate pieces) : c = sep ∨ ∃ piece ∈ pieces, c ∈ piece := by
  induction pieces with
  | nil => cases h
  | cons piece rest ih =>
    cases rest with
    | nil =>
      rw [List.intercalate_singleton] at h
      exact .inr ⟨piece, List.mem_cons_self, h⟩
    | cons next rest =>
      rw [List.intercalate_cons_cons, List.mem_append, List.mem_append, List.mem_singleton] at h
      rcases h with (h | h) | h
      · exact .inr ⟨piece, List.mem_cons_self, h⟩
      · exact .inl h
      · refine (ih h).imp_right ?_
        rintro ⟨other, ho, hc⟩
        exact ⟨other, List.mem_cons_of_mem _ ho, hc⟩

/-- A text has two pieces exactly when there is one separator, between them. -/
theorem splitOnAll_eq_pair_iff {sep : Char} {cs before after : List Char} :
    splitOnAll (· == sep) cs = [before, after] ↔
      cs = before ++ sep :: after ∧ sep ∉ before ∧ sep ∉ after := by
  have one (piece : List Char) (h : sep ∉ piece) : splitOnAll (· == sep) piece = [piece] :=
    splitOnAll_eq_singleton fun c hc ↦ beq_eq_false_iff_ne.mpr fun he ↦ h (he ▸ hc)
  have cut (before after : List Char) : splitOnAll (· == sep) (before ++ sep :: after) =
      splitOnAll (· == sep) before ++ splitOnAll (· == sep) after :=
    splitOnAll_append_cons (p := (· == sep)) (beq_self_eq_true sep) before after
  constructor
  · intro h
    by_cases hm : sep ∈ cs
    · obtain ⟨first, rest, rfl, hf⟩ := List.eq_append_cons_of_mem hm
      rw [cut, one first hf, List.singleton_append,
        List.cons.injEq] at h
      obtain ⟨rfl, h⟩ := h
      by_cases hr : sep ∈ rest
      · obtain ⟨second, others, rfl, -⟩ := List.eq_append_cons_of_mem hr
        rw [cut] at h
        have hl := congrArg List.length h
        have h1 := List.length_pos_iff.mpr (splitOnAll_ne_nil (· == sep) second)
        have h2 := List.length_pos_iff.mpr (splitOnAll_ne_nil (· == sep) others)
        rw [List.length_append, List.length_singleton] at hl
        omega
      · rw [one rest hr, List.cons.injEq] at h
        obtain ⟨rfl, -⟩ := h
        exact ⟨rfl, hf, hr⟩
    · rw [one cs hm] at h
      simp at h
  · rintro ⟨rfl, hb, ha⟩
    rw [cut, one before hb, one after ha]
    rfl

/-- One occurrence cuts a list in two parts without it. -/
theorem count_eq_one_iff {sep : Char} {cs : List Char} :
    cs.count sep = 1 ↔
      ∃ before after, cs = before ++ sep :: after ∧ sep ∉ before ∧ sep ∉ after := by
  constructor
  · intro h
    have hm : sep ∈ cs := List.count_pos_iff.mp (by omega)
    obtain ⟨before, after, rfl, hb⟩ := List.eq_append_cons_of_mem hm
    refine ⟨before, after, rfl, hb, ?_⟩
    rw [List.count_append, List.count_cons_self, List.count_eq_zero.mpr hb] at h
    exact List.count_eq_zero.mp (by omega)
  · rintro ⟨before, after, rfl, hb, ha⟩
    rw [List.count_append, List.count_cons_self, List.count_eq_zero.mpr hb,
      List.count_eq_zero.mpr ha]

/-- A cut of a string is at its first separator. -/
theorem cut_eq_some_iff {sep : Char} {s before after : String} :
    cut sep s = some (before, after) ↔
      s = before ++ sep.toString ++ after ∧ sep ∉ before.toList := by
  rw [cut, Option.map_eq_some_iff, ← String.toList_inj]
  constructor
  · rintro ⟨⟨b, a⟩, hc, he⟩
    obtain ⟨rfl, rfl⟩ := Prod.mk.inj he
    obtain ⟨hs, hb⟩ := cutAt_eq_some_iff.mp hc
    simpa using ⟨hs, hb⟩
  · rintro ⟨hs, hb⟩
    refine ⟨(before.toList, after.toList), cutAt_eq_some_iff.mpr ⟨?_, hb⟩, by simp⟩
    simpa using hs

/-- The last separator splits a text in one way. -/
theorem append_cons_inj {sep : Char} {before before' after after' : List Char}
    (h : sep ∉ after) (h' : sep ∉ after') (he : before ++ sep :: after = before' ++ sep :: after') :
    before = before' ∧ after = after' := by
  have hcut (before after : List Char) (h : sep ∉ after) :
      cutAt sep (before ++ sep :: after).reverse = some (after.reverse, before.reverse) :=
    cutAt_eq_some_iff.mpr ⟨by simp, by simpa using h⟩
  have hp := hcut before after h
  rw [he, hcut before' after' h', Option.some.injEq, Prod.mk.injEq, List.reverse_inj,
    List.reverse_inj] at hp
  exact ⟨hp.2.symm, hp.1.symm⟩

/-! ## Words -/

/-- A blank divides the words. -/
theorem wordsOf_append_cons {c : Char} (hc : isBlank c = true) (before after : List Char) :
    wordsOf (before ++ c :: after) = wordsOf before ++ wordsOf after := by
  rw [wordsOf, splitOnAll_append_cons hc, List.filter_append]
  rfl

theorem wordsOf_cons_blank {c : Char} (hc : isBlank c = true) (cs : List Char) :
    wordsOf (c :: cs) = wordsOf cs := by
  exact wordsOf_append_cons hc [] cs

/-- Blanks at the front belong to no word. -/
theorem wordsOf_append_blanks {blanks : List Char} (h : ∀ c ∈ blanks, isBlank c = true)
    (cs : List Char) : wordsOf (blanks ++ cs) = wordsOf cs := by
  induction blanks with
  | nil => rfl
  | cons c blanks ih =>
    rw [List.cons_append, wordsOf_cons_blank (h c List.mem_cons_self)]
    exact ih fun d hd ↦ h d (List.mem_cons_of_mem c hd)

/-- A text without blanks is one word. -/
theorem wordsOf_eq_singleton {word : List Char} (hne : word ≠ [])
    (h : ∀ c ∈ word, isBlank c = false) : wordsOf word = [word] := by
  rw [wordsOf, splitOnAll_eq_singleton h]
  simp [hne]

/-- A run of other characters that ends at a blank or with the text is a word. -/
theorem wordsOf_append_word {word rest : List Char} (hne : word ≠ [])
    (h : ∀ c ∈ word, isBlank c = false) (hr : ∀ c ∈ rest.head?, isBlank c = true) :
    wordsOf (word ++ rest) = word :: wordsOf rest := by
  cases rest with
  | nil =>
    rw [List.append_nil, wordsOf_eq_singleton hne h]
    rfl
  | cons c rest =>
    have hc : isBlank c = true := hr c rfl
    rw [wordsOf_append_cons hc, wordsOf_eq_singleton hne h, wordsOf_cons_blank hc]
    rfl

/-- A text that does not start with a blank starts with a word. -/
private theorem exists_word (c : Char) (cs : List Char) (hc : isBlank c = false) :
    ∃ word rest, c :: cs = word ++ rest ∧ word ≠ [] ∧ (∀ d ∈ word, isBlank d = false) ∧
      ∀ d ∈ rest.head?, isBlank d = true := by
  obtain ⟨⟨word, rest⟩, hs⟩ : ∃ r, (c :: cs).span (!isBlank ·) = r := ⟨_, rfl⟩
  obtain ⟨he, hw, hr⟩ := span_eq_iff.mp hs
  simp only [Bool.not_eq_true', Bool.not_eq_false'] at hw hr
  refine ⟨word, rest, he, ?_, hw, hr⟩
  rintro rfl
  have hblank : isBlank c = true := hr c (by rw [← List.nil_append rest, ← he]; rfl)
  rw [hc] at hblank
  cases hblank

/-- There are no words exactly in a text of blanks. -/
theorem wordsOf_eq_nil_iff {cs : List Char} :
    wordsOf cs = [] ↔ ∀ c ∈ cs, isBlank c = true := by
  constructor
  · intro h
    induction cs with
    | nil => simp
    | cons c cs ih =>
      cases hc : isBlank c with
      | true =>
        rw [wordsOf_cons_blank hc] at h
        exact List.forall_mem_cons.mpr ⟨hc, ih h⟩
      | false =>
        obtain ⟨word, rest, he, hne, hw, hr⟩ := exists_word c cs hc
        rw [he, wordsOf_append_word hne hw hr] at h
        exact absurd h (List.cons_ne_nil _ _)
  · intro h
    rw [← List.append_nil cs, wordsOf_append_blanks h]
    rfl

/-- The first word follows a run of blanks and ends at a blank or with the text. -/
theorem exists_of_wordsOf_eq_cons {cs word : List Char} {words : List (List Char)}
    (h : wordsOf cs = word :: words) :
    ∃ blanks rest, cs = blanks ++ word ++ rest ∧ (∀ c ∈ blanks, isBlank c = true) ∧
      word ≠ [] ∧ (∀ c ∈ word, isBlank c = false) ∧ (∀ c ∈ rest.head?, isBlank c = true) ∧
      wordsOf rest = words := by
  induction cs with
  | nil => exact absurd h (by simp [wordsOf, splitOnAll])
  | cons c cs ih =>
    cases hc : isBlank c with
    | true =>
      rw [wordsOf_cons_blank hc] at h
      obtain ⟨blanks, rest, rfl, hb, hrest⟩ := ih h
      exact ⟨c :: blanks, rest, rfl, List.forall_mem_cons.mpr ⟨hc, hb⟩, hrest⟩
    | false =>
      obtain ⟨first, rest, he, hne, hw, hr⟩ := exists_word c cs hc
      rw [he, wordsOf_append_word hne hw hr, List.cons.injEq] at h
      obtain ⟨rfl, rfl⟩ := h
      exact ⟨[], rest, he, by simp, hne, hw, hr, rfl⟩

/-- A text has two words exactly when it is the words, with blanks between and around them. -/
theorem wordsOf_eq_pair_iff {cs first second : List Char} :
    wordsOf cs = [first, second] ↔
      ∃ before between after, cs = before ++ first ++ between ++ second ++ after ∧
        (∀ c ∈ before ++ between ++ after, isBlank c = true) ∧ between ≠ [] ∧
        (first ≠ [] ∧ ∀ c ∈ first, isBlank c = false) ∧
        (second ≠ [] ∧ ∀ c ∈ second, isBlank c = false) := by
  constructor
  · intro h
    obtain ⟨before, rest, rfl, hb, hf, hfirst, hhead, hrest⟩ := exists_of_wordsOf_eq_cons h
    obtain ⟨between, after, rfl, hbt, hs, hsecond, -, ha⟩ := exists_of_wordsOf_eq_cons hrest
    have hne : between ≠ [] := by
      rintro rfl
      obtain ⟨c, cs, rfl⟩ := List.exists_cons_of_ne_nil hs
      have h1 := hhead c rfl
      rw [hsecond c List.mem_cons_self] at h1
      cases h1
    refine ⟨before, between, after, by simp only [List.append_assoc], ?_, hne, ⟨hf, hfirst⟩,
      hs, hsecond⟩
    simp only [List.forall_mem_append]
    exact ⟨⟨hb, hbt⟩, wordsOf_eq_nil_iff.mp ha⟩
  · rintro ⟨before, between, after, rfl, hb, hne, ⟨hf, hfirst⟩, hs, hsecond⟩
    simp only [List.forall_mem_append] at hb
    obtain ⟨⟨hbefore, hbetween⟩, hafter⟩ := hb
    have hhead (cs : List Char) : ∀ c ∈ (between ++ cs).head?, isBlank c = true := by
      intro c hc
      obtain ⟨d, ds, rfl⟩ := List.exists_cons_of_ne_nil hne
      rw [List.cons_append, List.head?_cons, Option.mem_some] at hc
      exact hbetween c (hc ▸ List.mem_cons_self)
    have htail : ∀ c ∈ after.head?, isBlank c = true :=
      fun c hc ↦ hafter c (List.mem_of_mem_head? hc)
    simp only [List.append_assoc]
    rw [wordsOf_append_blanks hbefore, wordsOf_append_word hf hfirst (hhead _),
      wordsOf_append_blanks hbetween, wordsOf_append_word hs hsecond htail,
      wordsOf_eq_nil_iff.mpr hafter]

/-- The words of a string are those of its characters. -/
theorem words_eq_iff {s : String} {ws : List String} :
    words s = ws ↔ wordsOf s.toList = ws.map String.toList := by
  rw [words]
  constructor
  · rintro rfl
    simp
  · intro h
    rw [h]
    simp

end ProxySettings.Text
