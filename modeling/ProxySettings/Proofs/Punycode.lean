import Mathlib.Data.List.Sort
import Mathlib.Tactic.Ring
import ProxySettings.Idna.Punycode
import ProxySettings.Proofs.Lists
import ProxySettings.Proofs.Splitting

/-!
# Punycode is read as it is written

A writer goes through a label once for each of its code points, and a reader inserts characters
where the distances lead it. The reader's text is at every moment the part of the label that the
writer has passed, and the writer's distance is what the reader still lacks. So the reader ends with
the whole label.
-/

namespace ProxySettings.Punycode

/-! ## Distances -/

theorem digitValue?_digitChar : ∀ d < 36, digitValue? (digitChar d) = some d := by
  decide

theorem threshold_le (position bias : Nat) : threshold position bias ≤ 26 := by
  unfold threshold
  split
  · decide
  · split <;> omega

/-- The digits that a distance is written with. -/
def IsDigit (c : Char) : Prop := ∃ d < 36, c = digitChar d

theorem isDigit_of_mem_distanceDigits {bias position distance : Nat} :
    ∀ c ∈ distanceDigits bias position distance, IsDigit c := by
  fun_induction distanceDigits bias position distance with
  | case1 position distance t hd =>
    have ht : t ≤ 26 := threshold_le position bias
    rw [List.forall_mem_singleton]
    exact ⟨distance, by omega, rfl⟩
  | case2 position distance t hd ih =>
    have ht : t ≤ 26 := threshold_le position bias
    have hm := Nat.mod_lt (distance - t) (show 0 < 36 - t by omega)
    exact List.forall_mem_cons.mpr ⟨⟨_, by omega, rfl⟩, ih⟩

theorem distanceDigits_ne_nil (bias position distance : Nat) :
    distanceDigits bias position distance ≠ [] := by
  rw [distanceDigits]
  split
  · exact List.cons_ne_nil _ _
  · exact List.cons_ne_nil _ _

/-- A distance that is written is read back, and the text after it is left. -/
theorem readDistance_distanceDigits (bias position weight sum distance : Nat) (rest : List Char) :
    readDistance bias position weight sum (distanceDigits bias position distance ++ rest) =
      some (sum + distance * weight, rest) := by
  fun_induction distanceDigits bias position distance generalizing weight sum with
  | case1 position distance t hd =>
    have ht : t ≤ 26 := threshold_le position bias
    rw [List.singleton_append, readDistance, digitValue?_digitChar distance (by omega)]
    exact if_pos hd
  | case2 position distance t hd ih =>
    have ht : t ≤ 26 := threshold_le position bias
    have hm := Nat.mod_lt (distance - t) (show 0 < 36 - t by omega)
    have hdigit : ¬t + (distance - t) % (36 - t) < t := by omega
    have hsum :
        t + (distance - t) % (36 - t) + (36 - t) * ((distance - t) / (36 - t)) = distance := by
      have hdiv := Nat.mod_add_div (distance - t) (36 - t)
      omega
    rw [List.cons_append, readDistance, digitValue?_digitChar _ (by omega)]
    refine (if_neg hdigit).trans ?_
    rw [ih, Option.some.injEq, Prod.mk.injEq]
    refine ⟨?_, rfl⟩
    generalize t + (distance - t) % (36 - t) = digit at *
    generalize (distance - t) / (36 - t) = more at *
    change sum + digit * weight + more * (weight * (36 - t)) = sum + distance * weight
    rw [← hsum]
    ring

/-! ## Reading on -/

/-- The state of a reader: whether it has read a distance, the code point and the position from
which the next distance counts, the bias and the characters so far. -/
structure Reader where
  isFirst : Bool
  code : Nat
  position : Nat
  bias : Nat
  out : List Char

theorem insertFrom_nil (isFirst : Bool) (code position bias fuel : Nat) (out : List Char) :
    insertFrom isFirst code position bias out fuel [] = some out := by
  rw [insertFrom]

/-- A distance is read, and then what comes after it, from where the distance leads. -/
theorem insertFrom_of_ne_nil {isFirst : Bool} {code position bias fuel : Nat}
    {out digits : List Char} (h : digits ≠ []) :
    insertFrom isFirst code position bias out (fuel + 1) digits =
      (readDistance bias 36 1 0 digits).bind fun (distance, rest) ↦
        let next := code + (position + distance) / (out.length + 1)
        let place := (position + distance) % (out.length + 1)
        if next.isValidChar then
          insertFrom false next (place + 1) (adapt distance (out.length + 1) isFirst)
            (out.take place ++ Char.ofNat next :: out.drop place) fuel rest
        else none := by
  rw [insertFrom]
  · refine Option.bind_congr fun r _ ↦ ?_
    simp only [guard]
    split <;> rfl
  · exact h

namespace Reader

/-- A reader that has these digits left reads a text. -/
def Reads (r : Reader) (digits text : List Char) : Prop :=
  ∀ fuel, digits.length ≤ fuel →
    insertFrom r.isFirst r.code r.position r.bias r.out fuel digits = some text

theorem reads_nil (r : Reader) : r.Reads [] r.out := by
  intro fuel _
  rw [insertFrom_nil]

/-- The state after a distance that leads to a place between the characters so far. -/
def insert (r : Reader) (distance : Nat) (c : Char) (place : Nat) : Reader :=
  ⟨false, c.toNat, place + 1, adapt distance (r.out.length + 1) r.isFirst,
    r.out.take place ++ c :: r.out.drop place⟩

/-- A distance leads to the code point and the place that it counts to. -/
theorem Reads.of_insert {r : Reader} {distance place : Nat} {c : Char} {rest text : List Char}
    (hplace : place ≤ r.out.length)
    (hd : distance + (r.code * (r.out.length + 1) + r.position) =
      c.toNat * (r.out.length + 1) + place)
    (h : (r.insert distance c place).Reads rest text) :
    r.Reads (distanceDigits r.bias 36 distance ++ rest) text := by
  intro fuel hfuel
  have hlt : place < r.out.length + 1 := Nat.lt_succ_of_le hplace
  have hcode : r.code ≤ c.toNat := by
    by_contra hc
    have := Nat.mul_le_mul_right (r.out.length + 1) (Nat.lt_of_not_le hc)
    rw [Nat.succ_mul] at this
    omega
  -- A distance counts whole passes over the places, one for each code point, and then the place.
  obtain ⟨steps, hsteps⟩ := Nat.exists_eq_add_of_le hcode
  have hsum : r.position + distance = place + (r.out.length + 1) * steps := by
    rw [hsteps, Nat.add_mul, Nat.mul_comm steps] at hd
    omega
  have hnext : r.code + (r.position + distance) / (r.out.length + 1) = c.toNat := by
    rw [hsum, Nat.add_mul_div_left _ _ (Nat.succ_pos _), Nat.div_eq_of_lt hlt, Nat.zero_add,
      hsteps]
  have hmod : (r.position + distance) % (r.out.length + 1) = place := by
    rw [hsum, Nat.add_mul_mod_self_left, Nat.mod_eq_of_lt hlt]
  have hread := readDistance_distanceDigits r.bias 36 1 0 distance rest
  rw [Nat.zero_add, Nat.mul_one] at hread
  have hpos := List.length_pos_iff.mpr (distanceDigits_ne_nil r.bias 36 distance)
  rw [List.length_append] at hfuel
  obtain ⟨fuel, rfl⟩ : ∃ n, fuel = n + 1 := ⟨fuel - 1, by omega⟩
  rw [insertFrom_of_ne_nil (List.ne_nil_of_length_pos (by rw [List.length_append]; omega)), hread,
    Option.bind_some]
  simp only [hnext, hmod, Char.ofNat_toNat]
  rw [if_pos (show c.toNat.isValidChar from c.valid)]
  exact h fuel (by omega)

end Reader

/-! ## Writing and reading -/

/-- What is written between two states of a writer takes a reader from one state to another. -/
def Leads (w w' : Writer) (r r' : Reader) : Prop :=
  ∃ digits, w'.out = digits.reverse ++ w.out ∧ (∀ c ∈ digits, IsDigit c) ∧
    ∀ rest text, r'.Reads rest text → r.Reads (digits ++ rest) text

theorem Leads.of_out_eq {w w' : Writer} (h : w'.out = w.out) (r : Reader) : Leads w w' r r :=
  ⟨[], h, nofun, fun _ _ hr ↦ hr⟩

theorem Leads.trans {w w' w'' : Writer} {r r' r'' : Reader} (h : Leads w w' r r')
    (h' : Leads w' w'' r' r'') : Leads w w'' r r'' := by
  obtain ⟨digits, hout, hd, hr⟩ := h
  obtain ⟨digits', hout', hd', hr'⟩ := h'
  refine ⟨digits ++ digits', ?_, List.forall_mem_append.mpr ⟨hd, hd'⟩, fun rest text h ↦ ?_⟩
  · rw [hout', hout, List.reverse_append, List.append_assoc]
  · rw [List.append_assoc]
    exact hr _ _ (hr' rest text h)

/-- A writer at a code point has passed the beginning of the label: the reader has all characters up
to the code point from there, and those before the code point from the rest. The writer's distance
leads the reader to the code point and the place between the two. -/
structure Tracks (basics code : Nat) (passed left : List Char) (w : Writer) (r : Reader) :
    Prop where
  out : r.out = passed.filter (·.toNat ≤ code) ++ left.filter (·.toNat < code)
  count : w.count = r.out.length
  bias : w.bias = r.bias
  first : r.isFirst = (w.count == basics)
  basics_le : basics ≤ w.count
  distance : w.distance + (r.code * (r.out.length + 1) + r.position) =
    code * (r.out.length + 1) + (passed.filter (·.toNat ≤ code)).length

theorem filter_concat_of_le {code : Nat} {c : Char} (passed : List Char) (h : c.toNat ≤ code) :
    (passed ++ [c]).filter (·.toNat ≤ code) = passed.filter (·.toNat ≤ code) ++ [c] := by
  rw [List.filter_append, List.filter_cons_of_pos (by simpa using h), List.filter_nil]

/-- A character before the code point is in the reader's text already: the place moves on. -/
theorem Tracks.step_of_lt {basics code : Nat} {passed left : List Char} {c : Char} {w : Writer}
    {r : Reader} (hc : c.toNat < code) (h : Tracks basics code passed (c :: left) w r) :
    ∃ r', Leads w (w.step basics code c) r r' ∧
      Tracks basics code (passed ++ [c]) left (w.step basics code c) r' := by
  have hw : w.step basics code c = { w with distance := w.distance + 1 } := if_pos hc
  have hpassed := filter_concat_of_le passed hc.le
  have hout := h.out
  rw [List.filter_cons_of_pos (by simpa using hc)] at hout
  have hdistance := h.distance
  rw [hw]
  refine ⟨r, .of_out_eq rfl r, ?_, h.count, h.bias, h.first, h.basics_le, ?_⟩
  · rw [hout, hpassed, List.append_assoc, List.singleton_append]
  · rw [hpassed, List.length_append, List.length_singleton]
    change w.distance + 1 + _ = _
    omega

/-- A character at the code point is written as the distance to its place. -/
theorem Tracks.step_of_eq {basics code : Nat} {passed left : List Char} {c : Char} {w : Writer}
    {r : Reader} (hc : c.toNat = code) (h : Tracks basics code passed (c :: left) w r) :
    ∃ r', Leads w (w.step basics code c) r r' ∧
      Tracks basics code (passed ++ [c]) left (w.step basics code c) r' := by
  have hw : w.step basics code c =
      ⟨(distanceDigits w.bias 36 w.distance).reverse ++ w.out, 0,
        adapt w.distance (w.count + 1) (w.count == basics), w.count + 1⟩ := by
    rw [Writer.step, if_neg hc.not_lt, if_pos hc]
  have hpassed := filter_concat_of_le passed hc.le
  have hout := h.out
  rw [List.filter_cons_of_neg (by simpa using hc.ge)] at hout
  have hdistance := h.distance
  have hcount := h.count
  have hinsert : (r.insert w.distance c (passed.filter (·.toNat ≤ code)).length).out =
      (passed ++ [c]).filter (·.toNat ≤ code) ++ left.filter (·.toNat < code) := by
    rw [hpassed, Reader.insert, hout, List.take_left, List.drop_left, List.append_assoc,
      List.singleton_append]
  have hlength : (r.insert w.distance c (passed.filter (·.toNat ≤ code)).length).out.length =
      r.out.length + 1 := by
    rw [hinsert, hpassed, hout]
    simp only [List.length_append, List.length_singleton]
    omega
  rw [hw]
  refine ⟨r.insert w.distance c (passed.filter (·.toNat ≤ code)).length,
    ⟨distanceDigits w.bias 36 w.distance, rfl, isDigit_of_mem_distanceDigits, ?_⟩,
    hinsert, ?_, ?_, ?_, ?_, ?_⟩
  · intro rest text hr
    rw [h.bias]
    refine .of_insert ?_ ?_ hr
    · rw [hout, List.length_append]
      exact Nat.le_add_right _ _
    · rw [hc]
      exact hdistance
  · rw [hlength, ← hcount]
  · rw [Reader.insert, ← h.first, ← hcount]
  · -- Only the first distance is read before any character is inserted.
    have hne : w.count + 1 ≠ basics := by
      have := h.basics_le
      omega
    exact (beq_eq_false_iff_ne.mpr hne).symm
  · exact Nat.le_succ_of_le h.basics_le
  · rw [hlength, hpassed, List.length_append, List.length_singleton, Reader.insert, hc,
      Nat.zero_add]

/-- A character after the code point is left for later. -/
theorem Tracks.step_of_gt {basics code : Nat} {passed left : List Char} {c : Char} {w : Writer}
    {r : Reader} (hc : code < c.toNat) (h : Tracks basics code passed (c :: left) w r) :
    ∃ r', Leads w (w.step basics code c) r r' ∧
      Tracks basics code (passed ++ [c]) left (w.step basics code c) r' := by
  have hw : w.step basics code c = w := by
    rw [Writer.step, if_neg hc.not_gt, if_neg hc.ne']
  have hpassed : (passed ++ [c]).filter (·.toNat ≤ code) = passed.filter (·.toNat ≤ code) := by
    rw [List.filter_append, List.filter_cons_of_neg (by simpa using hc), List.filter_nil,
      List.append_nil]
  have hout := h.out
  rw [List.filter_cons_of_neg (by simpa using hc.le)] at hout
  rw [hw]
  refine ⟨r, .of_out_eq rfl r, ?_, h.count, h.bias, h.first, h.basics_le, ?_⟩
  · rw [hpassed]
    exact hout
  · rw [hpassed]
    exact h.distance

/-- One character of the label is passed. -/
theorem Tracks.step {basics code : Nat} {passed left : List Char} {c : Char} {w : Writer}
    {r : Reader} (h : Tracks basics code passed (c :: left) w r) :
    ∃ r', Leads w (w.step basics code c) r r' ∧
      Tracks basics code (passed ++ [c]) left (w.step basics code c) r' := by
  rcases Nat.lt_trichotomy c.toNat code with hc | hc | hc
  · exact h.step_of_lt hc
  · exact h.step_of_eq hc
  · exact h.step_of_gt hc

/-- The rest of the label is passed. -/
theorem Tracks.foldl {basics code : Nat} {passed left : List Char} {w : Writer} {r : Reader}
    (h : Tracks basics code passed left w r) :
    ∃ r', Leads w (left.foldl (Writer.step basics code) w) r r' ∧
      Tracks basics code (passed ++ left) [] (left.foldl (Writer.step basics code) w) r' := by
  induction left generalizing passed w r with
  | nil => exact ⟨r, .of_out_eq rfl r, by rwa [List.append_nil]⟩
  | cons c left ih =>
    obtain ⟨r', hstep, hr'⟩ := h.step
    obtain ⟨r'', hrest, hr''⟩ := ih hr'
    rw [List.append_assoc] at hr''
    exact ⟨r'', hstep.trans hrest, hr''⟩

/-- The code points of a label that are left: in ascending order, from `next` on. -/
structure LeftCodes (text : List Char) (next : Nat) (codes : List Nat) : Prop where
  sorted : codes.Pairwise (· < ·)
  le : ∀ code ∈ codes, next ≤ code
  mem : ∀ c ∈ text, next ≤ c.toNat → c.toNat ∈ codes

theorem LeftCodes.tail {text : List Char} {next code : Nat} {codes : List Nat}
    (h : LeftCodes text next (code :: codes)) : LeftCodes text (code + 1) codes := by
  obtain ⟨hcode, hsorted⟩ := List.pairwise_cons.mp h.sorted
  refine ⟨hsorted, hcode, fun c hc hle ↦ ?_⟩
  have hnext := h.le code List.mem_cons_self
  exact (List.mem_cons.mp (h.mem c hc (by omega))).resolve_left (by omega)

/-- No character of the label is between the code points that are written. -/
theorem LeftCodes.filter_eq {text : List Char} {next code : Nat} {codes : List Nat}
    (h : LeftCodes text next (code :: codes)) :
    text.filter (·.toNat < code) = text.filter (·.toNat < next) := by
  have hnext := h.le code List.mem_cons_self
  have hcode := (List.pairwise_cons.mp h.sorted).1
  refine List.filter_congr fun c hc ↦ decide_eq_decide.mpr ⟨fun hlt ↦ ?_, by omega⟩
  by_contra hle
  rcases List.mem_cons.mp (h.mem c hc (by omega)) with he | hm
  · omega
  · exact absurd (hcode _ hm) (by omega)

theorem filter_lt_eq_self {text : List Char} {next : Nat} (h : LeftCodes text next []) :
    text.filter (·.toNat < next) = text := by
  rw [List.filter_eq_self]
  intro c hc
  rw [decide_eq_true_eq]
  by_contra hle
  exact List.not_mem_nil (h.mem c hc (by omega))

/-- All code points are written. -/
theorem Tracks.codes {text : List Char} {basics next : Nat} {codes : List Nat} {w : Writer}
    {r : Reader} (hc : LeftCodes text next codes) (h : Tracks basics next [] text w r) :
    ∃ r', Leads w (Writer.codes text basics next w codes) r r' ∧ r'.out = text := by
  induction codes generalizing next w r with
  | nil =>
    refine ⟨r, .of_out_eq rfl r, ?_⟩
    rw [h.out, filter_lt_eq_self hc]
    rfl
  | cons code codes ih =>
    -- The code points that the label does not have are whole passes.
    obtain ⟨steps, rfl⟩ := Nat.exists_eq_add_of_le (hc.le code List.mem_cons_self)
    have hstart : Tracks basics (next + steps) [] text
        { w with distance := w.distance + (next + steps - next) * (w.count + 1) } r := by
      refine ⟨?_, h.count, h.bias, h.first, h.basics_le, ?_⟩
      · rw [hc.filter_eq]
        exact h.out
      · have hdistance := h.distance
        rw [Nat.add_sub_cancel_left, h.count, Nat.add_mul]
        simp only [List.filter_nil, List.length_nil] at hdistance ⊢
        omega
    obtain ⟨r', hpass, hr'⟩ := hstart.foldl
    rw [List.nil_append] at hr'
    generalize hdone : text.foldl (Writer.step basics (next + steps)) _ = done at hpass hr'
    -- One place more leads from the end of a pass to the start of the next one.
    have hnext : Tracks basics (next + steps + 1) [] text
        { done with distance := done.distance + 1 } r' := by
      have hout := hr'.out
      rw [List.filter_nil, List.append_nil] at hout
      refine ⟨?_, hr'.count, hr'.bias, hr'.first, hr'.basics_le, ?_⟩
      · rw [hout]
        simp only [Nat.lt_succ_iff, List.filter_nil, List.nil_append]
      · have hdistance := hr'.distance
        rw [← hout] at hdistance
        rw [Nat.succ_mul]
        simp only [List.filter_nil, List.length_nil]
        omega
    obtain ⟨r'', hrest, hr''⟩ := ih hc.tail hnext
    rw [Writer.codes, hdone]
    have hmove : Leads w done r r' := (Leads.of_out_eq rfl r).trans hpass
    exact ⟨r'', (hmove.trans (.of_out_eq rfl r')).trans hrest, hr''⟩

/-! ## Labels -/

/-- The code points of a label beyond ASCII. -/
def codesOf (text : List Char) : List Nat :=
  ((text.filter (initialCode ≤ ·.toNat)).map Char.toNat).mergeSort.eraseDups

theorem leftCodes_codesOf (text : List Char) : LeftCodes text initialCode (codesOf text) := by
  have hsorted : (codesOf text).Pairwise (· ≤ ·) :=
    (List.pairwise_mergeSort' (· ≤ ·) _).sublist (eraseDups_sublist _)
  have hmem (n : Nat) : n ∈ codesOf text ↔ ∃ c ∈ text, initialCode ≤ c.toNat ∧ c.toNat = n := by
    simp [codesOf, and_assoc]
  refine ⟨?_, fun n hn ↦ ?_, fun c hc hle ↦ (hmem _).mpr ⟨c, hc, hle, rfl⟩⟩
  · exact (hsorted.and (nodup_eraseDups _)).imp fun h ↦ Nat.lt_of_le_of_ne h.1 h.2
  · obtain ⟨c, -, hle, rfl⟩ := (hmem n).mp hn
    exact hle

/-- The characters of a label in ASCII. -/
def basicOf (text : List Char) : List Char := text.filter (·.toNat < initialCode)

/-- The start of a reader. -/
def Reader.start (basic : List Char) : Reader := ⟨true, initialCode, 0, initialBias, basic⟩

/-- A written label is its characters in ASCII, a hyphen if there are any, and digits from which a
reader has the label. -/
theorem exists_encode (text : List Char) : ∃ digits,
    encode text = (if (basicOf text).isEmpty then [] else basicOf text ++ ['-']) ++ digits ∧
    (∀ c ∈ digits, IsDigit c) ∧ (Reader.start (basicOf text)).Reads digits text := by
  have hstart (out : List Char) : Tracks (basicOf text).length initialCode [] text
      ⟨out, 0, initialBias, (basicOf text).length⟩ (Reader.start (basicOf text)) :=
    ⟨rfl, rfl, rfl, (beq_self_eq_true _).symm, Nat.le_refl _, Nat.zero_add _⟩
  obtain ⟨r, ⟨digits, hout, hdigits, hreads⟩, hr⟩ := (hstart
    (if (basicOf text).isEmpty then [] else '-' :: (basicOf text).reverse)).codes
      (leftCodes_codesOf text)
  refine ⟨digits, ?_, hdigits, ?_⟩
  · have hencode : encode text = (digits.reverse ++
        if (basicOf text).isEmpty then [] else '-' :: (basicOf text).reverse).reverse :=
      congrArg List.reverse hout
    rw [hencode, List.reverse_append, List.reverse_reverse]
    split
    · rfl
    · rw [List.reverse_cons, List.reverse_reverse]
  · have hread := hreads [] _ r.reads_nil
    rwa [List.append_nil, hr] at hread

theorem ne_hyphen_of_isDigit {c : Char} (h : IsDigit c) : c ≠ '-' := by
  obtain ⟨d, hd, rfl⟩ := h
  have hall : ∀ d < 36, digitChar d ≠ '-' := by decide
  exact hall d hd

/-- The digits of a label stand after its last hyphen. -/
theorem decode?_append_digits {basic digits : List Char}
    (hb : ∀ c ∈ basic, c.toNat < initialCode) (hd : '-' ∉ digits) :
    decode? ((if basic.isEmpty then [] else basic ++ ['-']) ++ digits) =
      insertFrom true initialCode 0 initialBias basic digits.length digits := by
  have hrev : ∀ c ∈ digits.reverse, (c != '-') = true := by
    intro c hc
    exact bne_iff_ne.mpr fun he ↦ hd (he ▸ List.mem_reverse.mp hc)
  cases basic with
  | nil =>
    have hspan : digits.reverse.span (· != '-') = (digits.reverse, []) :=
      Text.span_eq_iff.mpr ⟨(List.append_nil _).symm, hrev, nofun⟩
    rw [List.isEmpty_nil, if_pos rfl, List.nil_append, decode?, hspan]
    rfl
  | cons b bs =>
    have hspan : ((b :: bs) ++ ['-'] ++ digits).reverse.span (· != '-') =
        (digits.reverse, '-' :: (b :: bs).reverse) := by
      refine Text.span_eq_iff.mpr ⟨by simp, hrev, fun c hc ↦ ?_⟩
      obtain rfl := Option.some.inj hc
      rfl
    have hall : (b :: bs).all (·.toNat < initialCode) = true := by simpa using hb
    rw [List.isEmpty_cons, if_neg Bool.false_ne_true, decode?, hspan]
    simp only [List.isEmpty_reverse, List.isEmpty_cons, Bool.false_eq_true, if_false,
      List.reverse_reverse, hall, guard_true, Option.bind_eq_bind]
    rfl

/-- A label that is written is read back. -/
theorem decode?_encode (text : List Char) : decode? (encode text) = some text := by
  obtain ⟨digits, he, hd, hr⟩ := exists_encode text
  have hb : ∀ c ∈ basicOf text, c.toNat < initialCode := fun c hc ↦
    of_decide_eq_true (List.mem_filter.mp hc).2
  rw [he, decode?_append_digits hb fun hm ↦ ne_hyphen_of_isDigit (hd _ hm) rfl]
  exact hr digits.length (Nat.le_refl _)

/-! ## The characters of labels -/

/-- A written label has only characters in ASCII of the label, hyphens and digits. -/
theorem mem_encode {text : List Char} {c : Char} (h : c ∈ encode text) :
    (c ∈ text ∧ c.toNat < initialCode) ∨ c = '-' ∨ IsDigit c := by
  have hbasic (hc : c ∈ basicOf text) : c ∈ text ∧ c.toNat < initialCode := by
    simpa [basicOf] using hc
  obtain ⟨digits, he, hd, -⟩ := exists_encode text
  rw [he, List.mem_append] at h
  rcases h with h | h
  · split at h
    · cases h
    · rcases List.mem_append.mp h with h | h
      · exact .inl (hbasic h)
      · exact .inr (.inl (List.mem_singleton.mp h))
  · exact .inr (.inr (hd c h))

/-- Only characters from a code point on are inserted. -/
theorem mem_of_insertFrom {isFirst : Bool} {code position bias fuel : Nat}
    {out digits text : List Char}
    (h : insertFrom isFirst code position bias out fuel digits = some text) :
    ∀ c ∈ text, c ∈ out ∨ code ≤ c.toNat := by
  induction fuel generalizing isFirst code position bias out digits with
  | zero =>
    cases digits with
    | nil =>
      rw [insertFrom_nil] at h
      obtain rfl := Option.some.inj h
      exact fun c hc ↦ .inl hc
    | cons d ds =>
      rw [insertFrom] at h
      · cases h
      · exact nofun
  | succ fuel ih =>
    by_cases hne : digits = []
    · rw [hne, insertFrom_nil] at h
      obtain rfl := Option.some.inj h
      exact fun c hc ↦ .inl hc
    · rw [insertFrom_of_ne_nil hne] at h
      obtain ⟨⟨distance, rest⟩, -, h⟩ := Option.bind_eq_some_iff.mp h
      simp only at h
      split at h
      · next hvalid =>
        intro c hc
        have hnext := Nat.le_add_right code ((position + distance) / (out.length + 1))
        rcases ih h c hc with hc | hc
        · rw [List.mem_append, List.mem_cons] at hc
          rcases hc with hc | rfl | hc
          · exact .inl (List.mem_of_mem_take hc)
          · refine .inr ?_
            rw [Char.ofNat, dif_pos hvalid]
            exact hnext
          · exact .inl (List.mem_of_mem_drop hc)
        · exact .inr (Nat.le_trans hnext hc)
      · cases h

/-- The characters of a label that is read are characters of the text, or beyond ASCII. -/
theorem mem_of_decode? {label text : List Char} (h : decode? label = some text) :
    ∀ c ∈ text, c ∈ label ∨ initialCode ≤ c.toNat := by
  obtain ⟨⟨after, before⟩, hspan⟩ : ∃ r, label.reverse.span (· != '-') = r := ⟨_, rfl⟩
  have hlabel := (Text.span_eq_iff.mp hspan).1
  rw [List.reverse_eq_iff, List.reverse_append] at hlabel
  have hread (basic digits : List Char) (hb : ∀ c ∈ basic, c ∈ label)
      (hr : insertFrom true initialCode 0 initialBias basic digits.length digits = some text) :
      ∀ c ∈ text, c ∈ label ∨ initialCode ≤ c.toNat :=
    fun c hc ↦ (mem_of_insertFrom hr c hc).imp_left (hb c)
  rw [decode?, hspan] at h
  match before with
  | [] =>
    obtain ⟨_, -, h⟩ := Option.bind_eq_some_iff.mp h
    exact hread [] label (fun c hc ↦ nomatch hc) h
  | [hyphen] =>
    obtain ⟨_, -, h⟩ := Option.bind_eq_some_iff.mp h
    exact hread [] label (fun c hc ↦ nomatch hc) h
  | hyphen :: b :: before =>
    obtain ⟨_, -, h⟩ := Option.bind_eq_some_iff.mp h
    refine hread (b :: before).reverse after.reverse (fun c hc ↦ ?_) h
    rw [hlabel, List.reverse_cons, List.append_assoc]
    exact List.mem_append_left _ hc

end ProxySettings.Punycode
