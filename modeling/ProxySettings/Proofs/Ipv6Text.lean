import Mathlib.Data.List.TakeWhile
import ProxySettings.Proofs.DecimalText
import ProxySettings.Proofs.Splitting
import ProxySettings.Url.Ipv6

/-!
# IPv6 addresses are read as they are written

An address that is read has eight pieces of sixteen bits, however it was written. The pieces are
written in hexadecimal, with two colons for the longest run of zeros, and the text is read as the
same pieces.
-/

namespace ProxySettings

/-! ## Hexadecimal digits -/

namespace Text

theorem digitValue?_digitChar : ∀ d < 16, digitValue? 16 (Nat.digitChar d) = some d := by
  decide

theorem digitValue?_sixteen_lt {c : Char} {d : Nat} (h : digitValue? 16 c = some d) : d < 16 := by
  have hd := (Option.filter_eq_some_iff.mp h).2
  exact of_decide_eq_true hd

/-- Digits that are read after a number. -/
theorem lt_of_foldlM_digits {digits : List Char} {m n : Nat}
    (h : digits.foldlM (fun n c ↦ (digitValue? 16 c).map (16 * n + ·)) m = some n) :
    n < (m + 1) * 16 ^ digits.length := by
  induction digits generalizing m with
  | nil =>
    obtain rfl := Option.some.inj h
    simp
  | cons c digits ih =>
    rw [List.foldlM_cons] at h
    obtain ⟨v, hv, h⟩ := Option.bind_eq_some_iff.mp h
    obtain ⟨d, hd, rfl⟩ := Option.map_eq_some_iff.mp hv
    have hlt := ih h
    rw [Nat.mul_comm 16 m] at hlt
    exact Nat.lt_of_lt_of_le hlt (add_one_mul_pow_le (digitValue?_sixteen_lt hd) digits.length)

/-- Hexadecimal digits are read as a number of so many digits. -/
theorem lt_of_number?_sixteen {digits : List Char} {n : Nat} (h : number? 16 digits = some n) :
    n < 16 ^ digits.length := by
  rw [number?] at h
  split at h
  · cases h
  · have hlt := lt_of_foldlM_digits h
    rwa [Nat.zero_add, Nat.one_mul] at hlt

theorem exists_digit_of_mem_toDigits {n : Nat} :
    ∀ c ∈ Nat.toDigits 16 n, ∃ d < 16, c = Nat.digitChar d := by
  induction n using Nat.strongRecOn with
  | ind n ih =>
    rw [Nat.toDigits_eq_if (by decide)]
    split
    · next hn => exact List.forall_mem_singleton.mpr ⟨n, hn, rfl⟩
    · next hn =>
      exact List.forall_mem_append.mpr ⟨ih (n / 16) (by omega),
        List.forall_mem_singleton.mpr ⟨n % 16, Nat.mod_lt n (by decide), rfl⟩⟩

/-- A number that is written in hexadecimal is read back. -/
theorem number?_toDigits_sixteen (n : Nat) : number? 16 (Nat.toDigits 16 n) = some n := by
  have hread : (Nat.toDigits 16 n).foldlM (fun n c ↦ (digitValue? 16 c).map (16 * n + ·)) 0 =
      some n := by
    induction n using Nat.strongRecOn with
    | ind n ih =>
      have hdigit (d m : Nat) (hd : d < 16) :
          [Nat.digitChar d].foldlM (fun n c ↦ (digitValue? 16 c).map (16 * n + ·)) m =
            some (16 * m + d) := by
        rw [List.foldlM_cons, digitValue?_digitChar d hd]
        rfl
      rw [Nat.toDigits_eq_if (by decide)]
      split
      · next hn => rw [hdigit n 0 hn, Nat.mul_zero, Nat.zero_add]
      · next hn =>
        rw [List.foldlM_append, ih (n / 16) (by omega), Option.bind_eq_bind, Option.bind_some,
          hdigit (n % 16) _ (Nat.mod_lt n (by decide)), Nat.div_add_mod]
  rw [number?, if_neg (by simp), hread]

end Text

namespace Url

/-! ## What is read -/

/-- The pieces that are used up: those found, and one for the two colons. -/
def used (found : List Nat) (gap : Option Nat) : Nat :=
  found.length + (if gap.isSome then 1 else 0)

/-- The hexadecimal digits that a text starts with, up to four. -/
def leading (cs : List Char) : List Char := (cs.takeWhile isHex).take 4

/-- The piece that a text starts with. -/
def leadingPiece (cs : List Char) : Nat := (Text.number? 16 (leading cs)).getD 0

theorem pieces_nil (before : List Nat) (gap : Option Nat) (fuel : Nat) :
    pieces before gap fuel [] = some (before, gap) := by
  rw [pieces]

/-- One round: the second of two colons, or a piece with what comes after it. -/
theorem pieces_cons (before : List Nat) (gap : Option Nat) (fuel : Nat) (c : Char)
    (rest : List Char) : pieces before gap (fuel + 1) (c :: rest) =
      if 8 ≤ used before gap then none
      else if c = ':' then
        if gap.isSome then none else pieces before (some before.length) fuel rest
      else
        match (c :: rest).drop (leading (c :: rest)).length with
        | [] => some (before ++ [leadingPiece (c :: rest)], gap)
        | '.' :: _ =>
          if (leading (c :: rest)).isEmpty ∨ 6 < used before gap then none
          else (dotted? (c :: rest)).map fun last ↦ (before ++ last, gap)
        | ':' :: after =>
          if after.isEmpty then none
          else pieces (before ++ [leadingPiece (c :: rest)]) gap fuel after
        | _ => none := by
  rw [pieces]
  simp only [pieces_nil]
  rfl

/-- The pieces of an address as they are found in a text: eight at most with the two colons, which
stand at their place among the others. -/
structure AreFound (found : List Nat) (gap : Option Nat) : Prop where
  lt : ∀ n ∈ found, n < 2 ^ 16
  used : used found gap ≤ 8
  gap : ∀ i ∈ gap, i ≤ found.length

theorem AreFound.append {found more : List Nat} {gap : Option Nat} (h : AreFound found gap)
    (hlt : ∀ n ∈ more, n < 2 ^ 16) (hused : Url.used found gap + more.length ≤ 8) :
    AreFound (found ++ more) gap := by
  refine ⟨List.forall_mem_append.mpr ⟨h.lt, hlt⟩, ?_, fun i hi ↦ ?_⟩
  · rw [Url.used] at hused
    rw [Url.used, List.length_append]
    omega
  · rw [List.length_append]
    exact Nat.le_add_right_of_le (h.gap i hi)

theorem lt_of_byte? {cs rest : List Char} {n : Nat} (h : byte? cs = some (n, rest)) : n < 256 := by
  simp only [byte?] at h
  split at h
  · cases h
  · split at h
    · split at h
      · next hlt =>
        obtain ⟨rfl, -⟩ := Prod.mk.inj (Option.some.inj h)
        exact hlt
      · cases h
    · cases h

/-- What comes after a dot is reached if there is a dot. -/
theorem bind_of_dot {α : Type} {rest : List Char} {f : List Char → Option α} {a : α}
    (h : (if rest.head? = some '.' then some rest.tail >>= f else none >>= f) = some a) :
    f rest.tail = some a := by
  split at h
  · exact h
  · cases h

/-- Four bytes are two pieces. -/
theorem lt_of_dotted? {cs : List Char} {last : List Nat} (h : dotted? cs = some last) :
    last.length = 2 ∧ ∀ n ∈ last, n < 2 ^ 16 := by
  rw [dotted?] at h
  obtain ⟨⟨a, rest⟩, ha, h⟩ := Option.bind_eq_some_iff.mp h
  have h := bind_of_dot h
  obtain ⟨⟨b, rest⟩, hb, h⟩ := Option.bind_eq_some_iff.mp h
  have h := bind_of_dot h
  obtain ⟨⟨c, rest⟩, hc, h⟩ := Option.bind_eq_some_iff.mp h
  have h := bind_of_dot h
  obtain ⟨⟨d, rest⟩, hd, h⟩ := Option.bind_eq_some_iff.mp h
  obtain ⟨_, -, h⟩ := Option.bind_eq_some_iff.mp h
  obtain rfl := Option.some.inj h
  have ha := lt_of_byte? ha
  have hb := lt_of_byte? hb
  have hc := lt_of_byte? hc
  have hd := lt_of_byte? hd
  refine ⟨rfl, ?_⟩
  simp only [List.forall_mem_cons]
  exact ⟨by omega, by omega, nofun⟩

/-- Four hexadecimal digits are a piece. -/
theorem leadingPiece_lt (cs : List Char) : leadingPiece cs < 2 ^ 16 := by
  rw [leadingPiece]
  cases h : Text.number? 16 (leading cs) with
  | none => decide
  | some n =>
    have hpow := Nat.pow_le_pow_right (show 0 < 16 by decide)
      (List.length_take_le 4 (cs.takeWhile isHex))
    exact Nat.lt_of_lt_of_le (Text.lt_of_number?_sixteen h) hpow

/-- What is found stays within the eight pieces, from one round to the next. -/
theorem AreFound.of_pieces {before found : List Nat} {gap gap' : Option Nat} {fuel : Nat}
    {cs : List Char} (hb : AreFound before gap)
    (h : pieces before gap fuel cs = some (found, gap')) : AreFound found gap' := by
  induction fuel generalizing before gap cs with
  | zero =>
    cases cs with
    | nil =>
      obtain ⟨rfl, rfl⟩ := Prod.mk.inj (Option.some.inj h)
      exact hb
    | cons c rest => cases h
  | succ fuel ih =>
    cases cs with
    | nil =>
      obtain ⟨rfl, rfl⟩ := Prod.mk.inj (Option.some.inj h)
      exact hb
    | cons c rest =>
      rw [pieces_cons] at h
      split at h
      · cases h
      · next hused =>
        have hone : AreFound (before ++ [leadingPiece (c :: rest)]) gap :=
          hb.append (List.forall_mem_singleton.mpr (leadingPiece_lt _))
            (by rw [List.length_singleton]; omega)
        split at h
        · split at h
          · cases h
          · next hgap =>
            obtain rfl := Option.not_isSome_iff_eq_none.mp hgap
            refine ih ⟨hb.lt, ?_, fun i hi ↦ Nat.le_of_eq (Option.some.inj hi).symm⟩ h
            exact Nat.lt_of_not_le hused
        · split at h
          · obtain ⟨rfl, rfl⟩ := Prod.mk.inj (Option.some.inj h)
            exact hone
          · split at h
            · cases h
            · next hdot =>
              obtain ⟨last, hlast, h⟩ := Option.map_eq_some_iff.mp h
              obtain ⟨hlength, hlt⟩ := lt_of_dotted? hlast
              obtain ⟨rfl, rfl⟩ := Prod.mk.inj h
              exact hb.append hlt (by omega)
          · split at h
            · cases h
            · exact ih hone h
          · cases h

/-- The colons stand for the pieces that are left. -/
theorem AreFound.filled {found ps : List Nat} {gap : Option Nat} (h : AreFound found gap)
    (hf : Url.filled (found, gap) = some ps) : ps.length = 8 ∧ ∀ n ∈ ps, n < 2 ^ 16 := by
  cases gap with
  | none =>
    rw [Url.filled] at hf
    split at hf
    · next hlength =>
      obtain rfl := Option.some.inj hf
      exact ⟨hlength, h.lt⟩
    · cases hf
  | some i =>
    obtain rfl := Option.some.inj hf
    have hused := h.used
    have hgap := h.gap i rfl
    rw [Url.used, Option.isSome_some, if_pos rfl] at hused
    constructor
    · simp only [List.length_append, List.length_take, List.length_replicate, List.length_drop]
      omega
    · intro n hn
      rw [List.mem_append, List.mem_append, List.mem_replicate] at hn
      rcases hn with (hn | ⟨-, rfl⟩) | hn
      · exact h.lt n (List.mem_of_mem_take hn)
      · decide
      · exact h.lt n (List.mem_of_mem_drop hn)

/-- An address that is read has eight pieces of sixteen bits. -/
theorem pieces_of_ipv6? {cs : List Char} {ps : List Nat} (h : ipv6? cs = some ps) :
    ps.length = 8 ∧ ∀ n ∈ ps, n < 2 ^ 16 := by
  have hstart (gap : Option Nat) (hg : ∀ i ∈ gap, i = 0) : AreFound [] gap := by
    refine ⟨nofun, ?_, fun i hi ↦ Nat.le_of_eq (hg i hi)⟩
    rw [used]
    split <;> decide
  obtain ⟨⟨found, gap⟩, hfound, hf⟩ := Option.bind_eq_some_iff.mp h
  split at hfound
  · exact ((hstart (some 0) (by simp)).of_pieces hfound).filled hf
  · cases hfound
  · exact ((hstart none nofun).of_pieces hfound).filled hf

theorem ipv6?_eq_of_head {cs : List Char} (h : ∀ c ∈ cs.head?, c ≠ ':') :
    ipv6? cs = (pieces [] none cs.length cs).bind filled := by
  unfold ipv6?
  split
  · exact absurd rfl (h ':' rfl)
  · exact absurd rfl (h ':' rfl)
  · rfl

/-- Without a colon there are two pieces at most, so a text without one is no address. -/
theorem ipv6?_eq_none {cs : List Char} (h : ':' ∉ cs) : ipv6? cs = none := by
  have hhead : ∀ c ∈ cs.head?, c ≠ ':' := by
    rintro c hc rfl
    exact h (List.mem_of_mem_head? hc)
  have hfound : ∀ found gap, pieces [] none cs.length cs = some (found, gap) →
      found.length ≤ 2 ∧ gap = none := by
    intro found gap hp
    cases cs with
    | nil =>
      rw [pieces_nil] at hp
      obtain ⟨rfl, rfl⟩ := Prod.mk.inj (Option.some.inj hp)
      exact ⟨by decide, rfl⟩
    | cons c rest =>
      have hc : c ≠ ':' := hhead c rfl
      rw [List.length_cons, pieces_cons, if_neg (by decide), if_neg hc] at hp
      split at hp
      · obtain ⟨rfl, rfl⟩ := Prod.mk.inj (Option.some.inj hp)
        exact ⟨show 1 ≤ 2 by decide, rfl⟩
      · split at hp
        · cases hp
        · obtain ⟨last, hlast, hp⟩ := Option.map_eq_some_iff.mp hp
          obtain ⟨rfl, rfl⟩ := Prod.mk.inj hp
          exact ⟨Nat.le_of_eq (lt_of_dotted? hlast).1, rfl⟩
      · next hdrop =>
        exact absurd (List.mem_of_mem_drop (hdrop ▸ List.mem_cons_self)) h
      · cases hp
  rw [ipv6?_eq_of_head hhead]
  cases hp : pieces [] none cs.length cs with
  | none => rfl
  | some found =>
    obtain ⟨found, gap⟩ := found
    obtain ⟨hlength, rfl⟩ := hfound found gap hp
    exact if_neg (by omega)
/-! ## The written address -/

/-- A run of zeros of at least two pieces, with its place and its length. -/
def IsZeros (ps : List Nat) (run : Nat × Nat) : Prop :=
  2 ≤ run.2 ∧ run.2 = zeros (ps.drop run.1)

theorem isZeros_of_longestZeros {ps : List Nat} :
    ∀ run ∈ longestZeros ps, IsZeros ps run := by
  unfold longestZeros
  refine List.foldlRecOn (motive := fun best ↦ ∀ r ∈ best, IsZeros ps r) _ _ (by simp)
    fun best hb run hrun r hr ↦ ?_
  obtain ⟨i, -, rfl⟩ := List.mem_map.mp hrun
  split at hr
  · exact hb r hr
  · next htwo =>
    have hnew : IsZeros ps (i, zeros (ps.drop i)) := ⟨Nat.le_of_not_lt htwo, rfl⟩
    split at hr
    · exact Option.some.inj hr ▸ hnew
    · split at hr
      · exact Option.some.inj hr ▸ hnew
      · exact hb r hr

/-- Pieces are the zeros of a run with the pieces before and after it. -/
theorem eq_append_zeros {ps : List Nat} {i n : Nat} (h : IsZeros ps (i, n)) :
    ps = ps.take i ++ (List.replicate n 0 ++ ps.drop (i + n)) := by
  have hz : n = ((ps.drop i).takeWhile (· == 0)).length := h.2
  have hzeros : (ps.drop i).takeWhile (· == 0) = List.replicate n 0 := by
    refine List.eq_replicate_iff.mpr ⟨hz.symm, fun m hm ↦ ?_⟩
    have hm := List.mem_takeWhile_imp hm
    exact beq_iff_eq.mp hm
  have hsplit : ps.drop i = List.replicate n 0 ++ (ps.drop i).dropWhile (· == 0) := by
    rw [← hzeros, List.takeWhile_append_dropWhile]
  generalize (ps.drop i).dropWhile (· == 0) = rest at hsplit
  have hrest : ps.drop (i + n) = rest := by
    rw [← List.drop_drop, hsplit, List.drop_left' List.length_replicate]
  rw [hrest, ← hsplit, List.take_append_drop]

/-- The characters of pieces with colons between them. -/
def colonChars (ps : List Nat) : List Char := [':'].intercalate (ps.map (Nat.toDigits 16))

theorem colonChars_cons_cons (n m : Nat) (ps : List Nat) :
    colonChars (n :: m :: ps) = Nat.toDigits 16 n ++ ':' :: colonChars (m :: ps) := by
  simp [colonChars, List.intercalate_cons_cons]

theorem colonChars_singleton (n : Nat) : colonChars [n] = Nat.toDigits 16 n := by
  rw [colonChars, List.map_singleton, List.intercalate_singleton]

theorem colonChars_ne_nil (n : Nat) (ps : List Nat) : colonChars (n :: ps) ≠ [] := by
  cases ps with
  | nil =>
    rw [colonChars_singleton]
    exact Nat.toDigits_ne_nil
  | cons m ps =>
    rw [colonChars_cons_cons]
    simp

theorem toList_colonText (ps : List Nat) : (colonText ps).toList = colonChars ps := by
  rw [colonText, String.toList_intercalate, List.map_map]
  exact congrArg _ (List.map_congr_left fun n _ ↦ String.toList_ofList)

theorem mem_colonChars {ps : List Nat} {c : Char} (h : c ∈ colonChars ps) :
    c = ':' ∨ ∃ d < 16, c = Nat.digitChar d := by
  rcases Text.eq_or_exists_of_mem_intercalate h with hc | ⟨piece, hp, hc⟩
  · exact .inl hc
  · obtain ⟨n, -, rfl⟩ := List.mem_map.mp hp
    exact .inr (Text.exists_digit_of_mem_toDigits c hc)

/-- A written address has nothing but digits and colons. -/
theorem mem_ipv6Text {ps : List Nat} {c : Char} (h : c ∈ (ipv6Text ps).toList) :
    c = ':' ∨ ∃ d < 16, c = Nat.digitChar d := by
  rw [ipv6Text] at h
  split at h
  · rw [toList_colonText] at h
    exact mem_colonChars h
  · rw [String.toList_append, String.toList_append, toList_colonText, toList_colonText,
      List.mem_append, List.mem_append] at h
    rcases h with (h | h) | h
    · exact mem_colonChars h
    · have hall : "::".toList.all (· == ':') = true := by decide
      exact .inl (beq_iff_eq.mp (List.all_eq_true.mp hall c h))
    · exact mem_colonChars h

/-- A written address has a colon. -/
theorem colon_mem_ipv6Text {ps : List Nat} (hlength : ps.length = 8) :
    ':' ∈ (ipv6Text ps).toList := by
  rw [ipv6Text]
  split
  · obtain ⟨n, m, rest, rfl⟩ : ∃ n m rest, ps = n :: m :: rest :=
      match ps, hlength with
      | n :: m :: rest, _ => ⟨n, m, rest, rfl⟩
    rw [toList_colonText, colonChars_cons_cons]
    simp
  · rw [String.toList_append, String.toList_append]
    exact List.mem_append_left _ (List.mem_append_right _ (by decide))

/-! ## Reading the written address -/

/-- A text is read as these pieces, after others. -/
def ReadsPieces (before : List Nat) (gap : Option Nat) (cs : List Char)
    (found : List Nat × Option Nat) : Prop :=
  ∀ fuel, cs.length ≤ fuel → pieces before gap fuel cs = some found

theorem readsPieces_nil (before : List Nat) (gap : Option Nat) :
    ReadsPieces before gap [] (before, gap) :=
  fun fuel _ ↦ pieces_nil before gap fuel

/-- The second of two colons is read. -/
theorem ReadsPieces.of_colon {before : List Nat} {rest : List Char} {found : List Nat × Option Nat}
    (hused : before.length < 8) (h : ReadsPieces before (some before.length) rest found) :
    ReadsPieces before none (':' :: rest) found := by
  intro fuel hfuel
  obtain ⟨fuel, rfl⟩ : ∃ n, fuel = n + 1 := ⟨fuel - 1, by simp at hfuel; omega⟩
  rw [pieces_cons, if_neg (by simpa [used] using hused), if_pos rfl]
  exact h fuel (Nat.le_of_succ_le_succ hfuel)

theorem isHex_of_mem_toDigits {n : Nat} {c : Char} (h : c ∈ Nat.toDigits 16 n) :
    isHex c = true := by
  obtain ⟨d, hd, rfl⟩ := Text.exists_digit_of_mem_toDigits c h
  have hall : ∀ d < 16, isHex (Nat.digitChar d) = true := by decide
  exact hall d hd

/-- The digits of a piece lead a text whose rest does not go on with a digit. -/
theorem leading_append {n : Nat} (hn : n < 2 ^ 16) {rest : List Char}
    (hrest : ∀ c ∈ rest.head?, isHex c = false) :
    leading (Nat.toDigits 16 n ++ rest) = Nat.toDigits 16 n := by
  have hspan : (Nat.toDigits 16 n ++ rest).span isHex = (Nat.toDigits 16 n, rest) :=
    Text.span_eq_iff.mpr ⟨rfl, fun c hc ↦ isHex_of_mem_toDigits hc, hrest⟩
  rw [List.span_eq_takeWhile_dropWhile] at hspan
  have hlength : (Nat.toDigits 16 n).length ≤ 4 :=
    (Nat.length_toDigits_le_iff (by decide) (by decide)).mpr hn
  rw [leading, (Prod.mk.inj hspan).1, List.take_of_length_le hlength]

/-- A piece is read from its digits, whatever comes after them. -/
theorem pieces_append {before : List Nat} {gap : Option Nat} {fuel n : Nat} {rest : List Char}
    (hn : n < 2 ^ 16) (hused : used before gap < 8)
    (hrest : ∀ c ∈ rest.head?, c = ':') :
    pieces before gap (fuel + 1) (Nat.toDigits 16 n ++ rest) =
      match rest with
      | [] => some (before ++ [n], gap)
      | _ :: after => if after.isEmpty then none else pieces (before ++ [n]) gap fuel after := by
  have hhex : ∀ c ∈ rest.head?, isHex c = false := by
    intro c hc
    rw [hrest c hc]
    decide
  have hleading := leading_append hn hhex
  have hpiece : leadingPiece (Nat.toDigits 16 n ++ rest) = n := by
    rw [leadingPiece, hleading, Text.number?_toDigits_sixteen]
    rfl
  obtain ⟨d, ds, he⟩ := List.exists_cons_of_ne_nil (Nat.toDigits_ne_nil (n := n) (b := 16))
  have hd : d ≠ ':' := by
    rintro rfl
    exact absurd (isHex_of_mem_toDigits (n := n) (he ▸ List.mem_cons_self)) (by decide)
  rw [he, List.cons_append] at hleading hpiece ⊢
  rw [pieces_cons, if_neg (Nat.not_le.mpr hused), if_neg hd, hleading, hpiece, ← List.cons_append,
    List.drop_left]
  cases rest with
  | nil => rfl
  | cons c rest =>
    obtain rfl := hrest c rfl
    rfl

/-- A piece at the end is read. -/
theorem ReadsPieces.of_last {before : List Nat} {gap : Option Nat} {n : Nat} (hn : n < 2 ^ 16)
    (hused : used before gap < 8) :
    ReadsPieces before gap (Nat.toDigits 16 n) (before ++ [n], gap) := by
  intro fuel hfuel
  have hpos := List.length_pos_iff.mpr (Nat.toDigits_ne_nil (n := n) (b := 16))
  obtain ⟨fuel, rfl⟩ : ∃ n, fuel = n + 1 := ⟨fuel - 1, by omega⟩
  have h : pieces before gap (fuel + 1) (Nat.toDigits 16 n ++ []) = some (before ++ [n], gap) :=
    pieces_append hn hused (by simp)
  rwa [List.append_nil] at h

/-- A piece before a colon is read. -/
theorem ReadsPieces.of_piece {before : List Nat} {gap : Option Nat} {n : Nat} {rest : List Char}
    {found : List Nat × Option Nat} (hn : n < 2 ^ 16) (hused : used before gap < 8)
    (hne : rest ≠ []) (h : ReadsPieces (before ++ [n]) gap rest found) :
    ReadsPieces before gap (Nat.toDigits 16 n ++ ':' :: rest) found := by
  intro fuel hfuel
  rw [List.length_append, List.length_cons] at hfuel
  obtain ⟨fuel, rfl⟩ : ∃ n, fuel = n + 1 := ⟨fuel - 1, by omega⟩
  have hcolon : ∀ c ∈ (':' :: rest).head?, c = ':' := fun c hc ↦ (Option.some.inj hc).symm
  rw [pieces_append hn hused hcolon]
  refine (if_neg (by simpa using hne)).trans (h fuel ?_)
  have hpos := List.length_pos_iff.mpr (Nat.toDigits_ne_nil (n := n) (b := 16))
  omega

/-- Pieces with colons between them are read to the end. -/
theorem readsPieces_colonChars {before ps : List Nat} {gap : Option Nat}
    (hps : ∀ n ∈ ps, n < 2 ^ 16) (hused : used before gap + ps.length ≤ 8) :
    ReadsPieces before gap (colonChars ps) (before ++ ps, gap) := by
  induction ps generalizing before with
  | nil =>
    rw [List.append_nil]
    exact readsPieces_nil before gap
  | cons n ps ih =>
    obtain ⟨hn, hrest⟩ := List.forall_mem_cons.mp hps
    rw [List.length_cons] at hused
    have hnext : used (before ++ [n]) gap + ps.length ≤ 8 := by
      simp only [used, List.length_append, List.length_singleton] at hused ⊢
      omega
    have hrec := ih hrest hnext
    rw [List.append_assoc, List.singleton_append] at hrec
    cases ps with
    | nil =>
      rw [colonChars_singleton]
      exact .of_last hn (by omega)
    | cons m ps =>
      rw [colonChars_cons_cons]
      exact hrec.of_piece hn (by omega) (colonChars_ne_nil m ps)

/-- Pieces with colons between them are read to two colons. -/
theorem readsPieces_colonChars_gap {before ps : List Nat} {rest : List Char}
    {found : List Nat × Option Nat} (hne : ps ≠ []) (hps : ∀ n ∈ ps, n < 2 ^ 16)
    (hlength : before.length + ps.length < 8)
    (h : ReadsPieces (before ++ ps) (some (before ++ ps).length) rest found) :
    ReadsPieces before none (colonChars ps ++ ':' :: ':' :: rest) found := by
  induction ps generalizing before with
  | nil => exact absurd rfl hne
  | cons n ps ih =>
    obtain ⟨hn, hrest⟩ := List.forall_mem_cons.mp hps
    rw [List.length_cons] at hlength
    have hused : used before none < 8 := by
      rw [used, Option.isSome_none, if_neg Bool.false_ne_true]
      omega
    have hlength' : (before ++ [n]).length + ps.length < 8 := by
      rw [List.length_append, List.length_singleton]
      omega
    rw [List.append_cons] at h
    cases ps with
    | nil =>
      rw [List.append_nil] at h
      rw [colonChars_singleton]
      exact (h.of_colon hlength').of_piece hn hused (List.cons_ne_nil _ _)
    | cons m ps =>
      rw [colonChars_cons_cons, List.append_assoc, List.cons_append]
      refine (ih (List.cons_ne_nil m ps) hrest hlength' h).of_piece hn hused ?_
      exact List.append_ne_nil_of_left_ne_nil (colonChars_ne_nil m ps) _

/-! ## The whole address -/

theorem head_colonChars_append (n : Nat) (ps : List Nat) (rest : List Char) :
    ∀ c ∈ (colonChars (n :: ps) ++ rest).head?, c ≠ ':' := by
  have hmem : ∀ c ∈ (colonChars (n :: ps) ++ rest).head?, c ∈ Nat.toDigits 16 n := by
    obtain ⟨d, ds, he⟩ := List.exists_cons_of_ne_nil (Nat.toDigits_ne_nil (n := n) (b := 16))
    cases ps with
    | nil => simp [colonChars_singleton, he]
    | cons m ps => simp [colonChars_cons_cons, he]
  rintro c hc rfl
  exact absurd (isHex_of_mem_toDigits (hmem _ hc)) (by decide)

/-- Pieces without two colons are read. -/
theorem ipv6?_colonChars {ps : List Nat} (hlength : ps.length = 8) (hps : ∀ n ∈ ps, n < 2 ^ 16) :
    ipv6? (colonChars ps) = some ps := by
  have hused : used [] none + ps.length ≤ 8 := by
    rw [hlength]
    decide
  have hread := readsPieces_colonChars hps hused _ (Nat.le_refl _)
  obtain ⟨n, rest, rfl⟩ := List.exists_cons_of_length_eq_add_one hlength
  have hhead := head_colonChars_append n rest []
  rw [List.append_nil] at hhead
  rw [ipv6?_eq_of_head hhead, hread]
  exact if_pos hlength

/-- Pieces with two colons among them are read. -/
theorem ipv6?_colonChars_gap {first last : List Nat} {n : Nat}
    (hlength : first.length + (n + last.length) = 8) (hn : 0 < n)
    (hfirst : ∀ m ∈ first, m < 2 ^ 16) (hlast : ∀ m ∈ last, m < 2 ^ 16) :
    ipv6? (colonChars first ++ ':' :: ':' :: colonChars last) =
      some (first ++ (List.replicate n 0 ++ last)) := by
  have hused : used first (some first.length) + last.length ≤ 8 := by
    rw [used, Option.isSome_some, if_pos rfl]
    omega
  have hrest := readsPieces_colonChars hlast hused
  have hfilled : filled (first ++ last, some first.length) =
      some (first ++ (List.replicate n 0 ++ last)) := by
    rw [filled, List.take_left, List.drop_left, List.append_assoc, List.length_append]
    rw [show 8 - (first.length + last.length) = n by omega]
  cases first with
  | nil =>
    have hread := hrest _ (Nat.le_refl _)
    rw [← hfilled]
    exact congrArg (Option.bind · filled) hread
  | cons m first =>
    have hlt : ([] : List Nat).length + (m :: first).length < 8 := by
      rw [List.length_nil]
      omega
    have hread : ReadsPieces [] none (colonChars (m :: first) ++ ':' :: ':' :: colonChars last)
        (m :: first ++ last, some (m :: first).length) :=
      readsPieces_colonChars_gap (List.cons_ne_nil m first) hfirst hlt hrest
    rw [ipv6?_eq_of_head (head_colonChars_append m first _), hread _ (Nat.le_refl _)]
    exact hfilled

/-- A written address is read back. -/
theorem ipv6?_ipv6Text {ps : List Nat} (hlength : ps.length = 8) (hps : ∀ n ∈ ps, n < 2 ^ 16) :
    ipv6? (ipv6Text ps).toList = some ps := by
  rw [ipv6Text]
  split
  · rw [toList_colonText]
    exact ipv6?_colonChars hlength hps
  · next i n hz =>
    have hzeros := isZeros_of_longestZeros _ hz
    have hsplit := eq_append_zeros hzeros
    have hlengths := congrArg List.length hsplit
    rw [hlength, List.length_append, List.length_append, List.length_replicate] at hlengths
    have hread := ipv6?_colonChars_gap hlengths.symm (Nat.lt_of_lt_of_le (by decide) hzeros.1)
      (fun m hm ↦ hps m (List.mem_of_mem_take hm)) fun m hm ↦ hps m (List.mem_of_mem_drop hm)
    rw [← hsplit] at hread
    rw [String.toList_append, String.toList_append, toList_colonText, toList_colonText,
      List.append_assoc]
    exact hread

end Url

end ProxySettings
