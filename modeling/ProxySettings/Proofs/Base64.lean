import ProxySettings.Encoding.Base64

/-!
# Base64 is strict

Decoding accepts exactly what encoding writes, so that the bytes of a text and the text of bytes
determine each other: no text with other filling, or with bits to spare, denotes the same bytes.
-/

namespace ProxySettings.Base64

/-! ## Symbols -/

/-- A symbol has the value that it stands for. -/
theorem value?_symbol : ∀ v < 64, value? (symbol v) = some v := by
  decide

theorem symbol_ne_padByte : ∀ v < 64, symbol v ≠ padByte := by
  decide

/-- A byte with a value is the symbol of that value. -/
theorem value?_eq_some_iff {b : UInt8} {v : Nat} : value? b = some v ↔ v < 64 ∧ b = symbol v := by
  have all : ∀ n < 256, (value? (UInt8.ofNat n)).all
      (fun v ↦ decide (v < 64 ∧ UInt8.ofNat n = symbol v)) = true := by
    decide +kernel
  constructor
  · intro h
    have hb := all b.toNat b.toNat_lt
    rw [UInt8.ofNat_toNat, h] at hb
    exact of_decide_eq_true hb
  · rintro ⟨hv, rfl⟩
    exact value?_symbol v hv

/-! ## Filling -/

/-- Filling of some length may start at an offset. -/
def MayFill (offset count : Nat) : Prop := ∀ i < count, 2 ≤ (offset + i) % 4

theorem mayFill_succ_iff {offset count : Nat} :
    MayFill offset (count + 1) ↔ 2 ≤ offset % 4 ∧ MayFill (offset + 1) count := by
  constructor
  · intro h
    refine ⟨h 0 (by omega), fun i hi ↦ ?_⟩
    rw [Nat.add_assoc, Nat.add_comm 1 i]
    exact h (i + 1) (by omega)
  · rintro ⟨h0, h⟩ i hi
    cases i with
    | zero => exact h0
    | succ i =>
      have hs := h i (by omega)
      rwa [Nat.add_assoc, Nat.add_comm 1 i] at hs

/-- After filling has started nothing else is read. -/
theorem values_filled_eq_ok_iff {offset start : Nat} {text : List UInt8} {vs : List Nat} :
    values offset (some start) text = .ok vs ↔
      vs = [] ∧ ∃ count, text = List.replicate count padByte ∧ MayFill offset count := by
  induction text generalizing offset with
  | nil =>
    rw [values]
    constructor
    · intro h
      obtain rfl := Except.ok.inj h
      exact ⟨rfl, 0, rfl, fun i hi ↦ absurd hi (Nat.not_lt_zero i)⟩
    · rintro ⟨rfl, -⟩
      rfl
  | cons b rest ih =>
    rw [values]
    by_cases hb : b = padByte
    · subst hb
      rw [if_pos rfl]
      split
      · next ho =>
        constructor
        · intro h
          cases h
        · rintro ⟨-, count, hc, hf⟩
          cases count with
          | zero => cases hc
          | succ count =>
            have h0 := (mayFill_succ_iff.mp hf).1
            omega
      · next ho =>
        rw [Option.getD_some, ih]
        apply and_congr_right
        intro _
        constructor
        · rintro ⟨count, rfl, hf⟩
          exact ⟨count + 1, rfl, mayFill_succ_iff.mpr ⟨by omega, hf⟩⟩
        · rintro ⟨count, hc, hf⟩
          cases count with
          | zero => cases hc
          | succ count => exact ⟨count, (List.cons.inj hc).2, (mayFill_succ_iff.mp hf).2⟩
    · rw [if_neg hb]
      constructor
      · intro h
        cases h
      · rintro ⟨-, count, hc, -⟩
        cases count with
        | zero => cases hc
        | succ count => exact absurd (List.cons.inj hc).1 hb

/-- A symbol is read as its value. -/
theorem values_symbol {v : Nat} (hv : v < 64) (offset : Nat) (rest : List UInt8) :
    values offset none (symbol v :: rest) = (values (offset + 1) none rest).map (v :: ·) := by
  rw [values, if_neg (symbol_ne_padByte v hv)]
  simp only [value?_symbol v hv]

/-- Before filling starts nothing but symbols is read. -/
theorem exists_symbol_of_values {b : UInt8} (hb : b ≠ padByte) {offset : Nat} {rest : List UInt8}
    {vs : List Nat} (h : values offset none (b :: rest) = .ok vs) :
    ∃ v tail, v < 64 ∧ b = symbol v ∧ vs = v :: tail ∧
      values (offset + 1) none rest = .ok tail := by
  rw [values, if_neg hb] at h
  cases hv : value? b with
  | none =>
    simp only [hv] at h
    cases h
  | some v =>
    simp only [hv] at h
    obtain ⟨hlt, hsymbol⟩ := value?_eq_some_iff.mp hv
    cases hr : values (offset + 1) none rest with
    | error fault =>
      rw [hr] at h
      cases h
    | ok tail =>
      rw [hr] at h
      exact ⟨v, tail, hlt, hsymbol, (Except.ok.inj h).symm, rfl⟩

/-- A text is read as values exactly if it is their symbols, with filling where it may stand. -/
theorem values_eq_ok_iff {offset : Nat} {text : List UInt8} {vs : List Nat} :
    values offset none text = .ok vs ↔ (∀ v ∈ vs, v < 64) ∧
      ∃ count, text = vs.map symbol ++ List.replicate count padByte ∧
        MayFill (offset + vs.length) count := by
  induction text generalizing offset vs with
  | nil =>
    rw [values]
    constructor
    · intro h
      obtain rfl := Except.ok.inj h
      exact ⟨fun v hv ↦ absurd hv List.not_mem_nil, 0, rfl,
        fun i hi ↦ absurd hi (Nat.not_lt_zero i)⟩
    · rintro ⟨-, count, hc, -⟩
      cases vs with
      | nil => rfl
      | cons v vs => cases hc
  | cons b rest ih =>
    have hs : offset + 1 + vs.tail.length = offset + (vs.tail.length + 1) := by omega
    constructor
    · intro h
      by_cases hb : b = padByte
      · -- Nothing but filling follows.
        subst hb
        rw [values, if_pos rfl] at h
        split at h
        · cases h
        · next ho =>
          obtain ⟨rfl, count, rfl, hf⟩ := values_filled_eq_ok_iff.mp h
          refine ⟨fun v hv ↦ absurd hv List.not_mem_nil, count + 1, rfl, ?_⟩
          exact mayFill_succ_iff.mpr ⟨Nat.not_lt.mp ho, hf⟩
      · obtain ⟨v, tail, hlt, rfl, rfl, hr⟩ := exists_symbol_of_values hb h
        obtain ⟨hall, count, rfl, hf⟩ := ih.mp hr
        rw [List.tail_cons] at hs
        exact ⟨List.forall_mem_cons.mpr ⟨hlt, hall⟩, count, rfl, hs ▸ hf⟩
    · rintro ⟨hv, count, hc, hf⟩
      cases vs with
      | nil =>
        cases count with
        | zero => cases hc
        | succ count =>
          obtain ⟨rfl, rfl⟩ := List.cons.inj hc
          obtain ⟨ho, hf⟩ := mayFill_succ_iff.mp hf
          rw [List.length_nil, Nat.add_zero] at ho hf
          rw [values, if_pos rfl, if_neg (Nat.not_lt.mpr ho)]
          exact values_filled_eq_ok_iff.mpr ⟨rfl, count, rfl, hf⟩
      | cons v tail =>
        obtain ⟨rfl, hrest⟩ := List.cons.inj hc
        obtain ⟨hlt, hall⟩ := List.forall_mem_cons.mp hv
        rw [List.tail_cons] at hs
        have hr : values (offset + 1) none rest = .ok tail :=
          ih.mpr ⟨hall, count, hrest, hs ▸ hf⟩
        rw [values_symbol hlt, hr]
        rfl

/-! ## Groups -/

/-- The values that the symbols of bytes have. -/
def sextets : List UInt8 → List Nat
  | x :: y :: z :: rest =>
    x.toNat / 4 :: (x.toNat % 4 * 16 + y.toNat / 16) :: (y.toNat % 16 * 4 + z.toNat / 64) ::
      z.toNat % 64 :: sextets rest
  | [x, y] => [x.toNat / 4, x.toNat % 4 * 16 + y.toNat / 16, y.toNat % 16 * 4]
  | [x] => [x.toNat / 4, x.toNat % 4 * 16]
  | [] => []

/-- The length of the filling after a number of symbols. -/
def fillLength (count : Nat) : Nat := (4 - count % 4) % 4

/-- A text is the symbols of its values, with the filling that completes the last group. -/
theorem encode_eq (bytes : List UInt8) : encode bytes =
    (sextets bytes).map symbol ++ List.replicate (fillLength (sextets bytes).length) padByte := by
  fun_induction encode bytes with
  | case1 x y z rest ih =>
    rw [ih, sextets]
    simp only [fillLength, List.map_cons, List.length_cons, List.cons_append]
    have hl : (4 - ((sextets rest).length + 1 + 1 + 1 + 1) % 4) % 4 =
        (4 - (sextets rest).length % 4) % 4 := by
      omega
    rw [hl]
  | case2 x y => rfl
  | case3 x => rfl
  | case4 => rfl

theorem sextets_lt (bytes : List UInt8) : ∀ v ∈ sextets bytes, v < 64 := by
  fun_induction sextets bytes with
  | case1 x y z rest ih =>
    have hx := x.toNat_lt
    have hy := y.toNat_lt
    have hz := z.toNat_lt
    simp only [List.forall_mem_cons]
    refine ⟨by omega, by omega, by omega, by omega, ih⟩
  | case2 x y =>
    have hx := x.toNat_lt
    have hy := y.toNat_lt
    simp only [List.forall_mem_cons]
    refine ⟨by omega, by omega, by omega, nofun⟩
  | case3 x =>
    have hx := x.toNat_lt
    simp only [List.forall_mem_cons]
    refine ⟨by omega, by omega, nofun⟩
  | case4 => nofun

private theorem ofNat_eq {n : Nat} {x : UInt8} (h : n % 256 = x.toNat) : UInt8.ofNat n = x := by
  rw [← UInt8.toNat_inj, UInt8.toNat_ofNat']
  exact h

/-- The values of bytes denote the bytes. -/
theorem bytesOf_sextets (bytes : List UInt8) : bytesOf (sextets bytes) = bytes := by
  fun_induction sextets bytes with
  | case1 x y z rest ih =>
    have hx := x.toNat_lt
    have hy := y.toNat_lt
    have hz := z.toNat_lt
    rw [bytesOf, ih, ofNat_eq (x := x) (by omega), ofNat_eq (x := y) (by omega),
      ofNat_eq (x := z) (by omega)]
  | case2 x y =>
    have hx := x.toNat_lt
    have hy := y.toNat_lt
    rw [bytesOf, ofNat_eq (x := x) (by omega), ofNat_eq (x := y) (by omega)]
  | case3 x =>
    have hx := x.toNat_lt
    rw [bytesOf, ofNat_eq (x := x) (by omega)]
  | case4 => rfl

/-- A whole group leaves the spare bits to what follows it. -/
theorem spareBits_group (a b c d : Nat) (rest : List Nat) :
    spareBits (a :: b :: c :: d :: rest) = spareBits rest := by
  cases rest with
  | nil => simp [spareBits]
  | cons e rest =>
    have hl : (a :: b :: c :: d :: e :: rest).length % 4 = (e :: rest).length % 4 := by
      simp only [List.length_cons]
      omega
    rw [spareBits, spareBits, hl]
    simp only [List.getLast?_cons_cons]

theorem spareBits_sextets (bytes : List UInt8) : spareBits (sextets bytes) = 0 := by
  fun_induction sextets bytes with
  | case1 x y z rest ih => rw [spareBits_group, ih]
  | case2 x y =>
    change y.toNat % 16 * 4 % 4 = 0
    omega
  | case3 x =>
    change x.toNat % 4 * 16 % 16 = 0
    omega
  | case4 => rfl

theorem length_sextets_mod (bytes : List UInt8) : (sextets bytes).length % 4 ≠ 1 := by
  fun_induction sextets bytes with
  | case1 x y z rest ih =>
    simp only [List.length_cons]
    omega
  | case2 x y => simp
  | case3 x => simp
  | case4 => simp

/-- Values without spare bits are those of the bytes that they denote. -/
theorem sextets_bytesOf {vs : List Nat} (hlt : ∀ v ∈ vs, v < 64) (hl : vs.length % 4 ≠ 1)
    (hs : spareBits vs = 0) : sextets (bytesOf vs) = vs := by
  fun_induction bytesOf vs with
  | case1 a b c d rest ih =>
    simp only [List.forall_mem_cons] at hlt
    obtain ⟨ha, hb, hc, hd, hrest⟩ := hlt
    rw [spareBits_group] at hs
    have hr : rest.length % 4 ≠ 1 := by
      simp only [List.length_cons] at hl
      omega
    rw [sextets, ih hrest hr hs]
    simp only [UInt8.toNat_ofNat', List.cons.injEq, and_true]
    omega
  | case2 a b c =>
    simp only [List.forall_mem_cons] at hlt
    obtain ⟨ha, hb, hc, -⟩ := hlt
    have hspare : c % 4 = 0 := hs
    rw [sextets]
    simp only [UInt8.toNat_ofNat', List.cons.injEq, and_true]
    omega
  | case3 a b =>
    simp only [List.forall_mem_cons] at hlt
    obtain ⟨ha, hb, -⟩ := hlt
    have hspare : b % 16 = 0 := hs
    rw [sextets]
    simp only [UInt8.toNat_ofNat', List.cons.injEq, and_true]
    omega
  | case4 vs h4 h3 h2 =>
    cases vs with
    | nil => rfl
    | cons a rest =>
      cases rest with
      | nil => exact absurd rfl hl
      | cons b rest =>
        cases rest with
        | nil => exact (h2 a b rfl).elim
        | cons c rest =>
          cases rest with
          | nil => exact (h3 a b c rfl).elim
          | cons d rest => exact (h4 a b c d rest rfl).elim

/-! ## Decoding -/

/-- Filling that completes the last group has the length that encoding gives it. -/
theorem mayFill_iff_of_mod {count fill : Nat} (h : (count + fill) % 4 = 0) :
    MayFill count fill ↔ count % 4 ≠ 1 ∧ fill = fillLength count := by
  rw [fillLength]
  constructor
  · intro hf
    have h0 : 0 < fill → 2 ≤ count % 4 := hf 0
    have h1 : 1 < fill → 2 ≤ (count + 1) % 4 := hf 1
    have h2 : 2 < fill → 2 ≤ (count + 2) % 4 := hf 2
    omega
  · rintro ⟨hc, hf⟩ i hi
    omega

/-- Decoding accepts exactly what encoding writes. -/
theorem decode_eq_ok_iff {text bytes : List UInt8} :
    decode text = .ok bytes ↔ text = encode bytes := by
  constructor
  · intro h
    rw [decode] at h
    split at h
    · split at h <;> cases h
    · split at h
      · cases h
      · next vs hv =>
        split at h
        · cases h
        · next hl =>
          split at h
          · cases h
          · next hs =>
            obtain rfl := Except.ok.inj h
            obtain ⟨hlt, fill, rfl, hf⟩ := values_eq_ok_iff.mp hv
            rw [List.length_append, List.length_map, List.length_replicate] at hl
            rw [Nat.zero_add] at hf
            obtain ⟨hn, rfl⟩ := (mayFill_iff_of_mod (Decidable.not_not.mp hl)).mp hf
            rw [encode_eq, sextets_bytesOf hlt hn (Decidable.not_not.mp hs)]
  · rintro rfl
    have hn := length_sextets_mod bytes
    have hmod : ((sextets bytes).length + fillLength (sextets bytes).length) % 4 = 0 := by
      rw [fillLength]
      omega
    have hl : (encode bytes).length % 4 = 0 := by
      rw [encode_eq, List.length_append, List.length_map, List.length_replicate, hmod]
    have hv : values 0 none (encode bytes) = .ok (sextets bytes) := by
      refine values_eq_ok_iff.mpr ⟨sextets_lt bytes, _, encode_eq bytes, ?_⟩
      rw [Nat.zero_add]
      exact (mayFill_iff_of_mod hmod).mpr ⟨hn, rfl⟩
    rw [decode, if_neg (by omega), hv]
    simp only [hl, ne_eq, not_true_eq_false, ↓reduceIte, spareBits_sextets, bytesOf_sextets]

/-- A text denotes at most the bytes that it is written for. -/
theorem encode_injective {bytes others : List UInt8} (h : encode bytes = encode others) :
    bytes = others :=
  Except.ok.inj ((decode_eq_ok_iff.mpr rfl).symm.trans (decode_eq_ok_iff.mpr h))

/-! ## Written texts -/

/-- Encoding writes symbols and filling only. -/
theorem forall_mem_encode {P : UInt8 → Prop} (hsymbol : ∀ v < 64, P (symbol v)) (hpad : P padByte)
    (bytes : List UInt8) : ∀ b ∈ encode bytes, P b := by
  intro b hb
  rw [encode_eq, List.mem_append] at hb
  rcases hb with hb | hb
  · obtain ⟨v, hv, rfl⟩ := List.mem_map.mp hb
    exact hsymbol v (sextets_lt bytes v hv)
  · rwa [List.eq_of_mem_replicate hb]

/-- What encoding writes shows in ASCII and has no space. -/
theorem encode_visible (bytes : List UInt8) : ∀ b ∈ encode bytes, 32 < b ∧ b < 127 :=
  forall_mem_encode (by decide) (by decide) bytes

theorem sextets_append {xs : List UInt8} (h : xs.length % 3 = 0) (ys : List UInt8) :
    sextets (xs ++ ys) = sextets xs ++ sextets ys := by
  fun_induction sextets xs with
  | case1 x y z rest ih =>
    have hrest : rest.length % 3 = 0 := by
      simp only [List.length_cons] at h
      omega
    simp only [List.cons_append, sextets, ih hrest]
  | case2 x y => simp at h
  | case3 x => simp at h
  | case4 => rfl

theorem length_sextets_mod_of_whole {bytes : List UInt8} (h : bytes.length % 3 = 0) :
    (sextets bytes).length % 4 = 0 := by
  fun_induction sextets bytes with
  | case1 x y z rest ih =>
    simp only [List.length_cons] at h ⊢
    omega
  | case2 x y => simp at h
  | case3 x => simp at h
  | case4 => rfl

/-- Bytes are encoded three at a time. -/
theorem encode_append {xs : List UInt8} (h : xs.length % 3 = 0) (ys : List UInt8) :
    encode (xs ++ ys) = encode xs ++ encode ys := by
  fun_induction encode xs with
  | case1 x y z rest ih =>
    have hrest : rest.length % 3 = 0 := by
      simp only [List.length_cons] at h
      omega
    simp only [List.cons_append, encode, ih hrest]
  | case2 x y => simp at h
  | case3 x => simp at h
  | case4 => rfl

theorem length_encode (bytes : List UInt8) :
    (encode bytes).length = (bytes.length + 2) / 3 * 4 := by
  fun_induction encode bytes with
  | case1 x y z rest ih =>
    simp only [List.length_cons]
    omega
  | case2 x y => simp
  | case3 x => simp
  | case4 => rfl

theorem encode_eq_nil_iff {bytes : List UInt8} : encode bytes = [] ↔ bytes = [] := by
  constructor
  · intro h
    exact encode_injective h
  · rintro rfl
    rfl

end ProxySettings.Base64
