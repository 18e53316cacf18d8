import Mathlib.Data.List.DropRight
import ProxySettings.Json.Printer
import ProxySettings.Json.Reader
import ProxySettings.Proofs.DecimalText
import ProxySettings.Proofs.Splitting

/-!
# JSON that is written and read back

The text that a value is written as is read as the value, on one line or over several, whatever
characters its strings have. Text in which a value stands is read from the value's first character
on, and a number ends where its text cannot go on.
-/

namespace ProxySettings.Json

/-! ## Strings -/

/-- A piece of a string stands for a character, whatever pieces follow. -/
def Piece.IsFor (p : Piece) (c : Char) : Prop :=
  ∀ ps, assemble (p :: ps) = (assemble ps).map (c :: ·)

theorem Piece.isFor_char (c : Char) : (char c).IsFor c := fun _ ↦ rfl

/-- The units of controls belong to no pair. -/
theorem Piece.isFor_unit {c : Char} (hc : c.toNat < 32) : (unit c.toNat).IsFor c := by
  intro ps
  have hh : isHigh c.toNat = false := by
    simp only [isHigh, Bool.and_eq_false_iff, decide_eq_false_iff_not]
    omega
  have hl : isLow c.toNat = false := by
    simp only [isLow, Bool.and_eq_false_iff, decide_eq_false_iff_not]
    omega
  rw [assemble.eq_def]
  simp [hh, hl]

theorem pieces_letter {c d : Char} (hu : c ≠ 'u') (h : escapedChar c = some d)
    (rest : List Char) :
    pieces ('\\' :: c :: rest) = (pieces rest).map fun r ↦ (.char d :: r.1, r.2) := by
  rw [pieces.eq_def]
  simp [h, hu]

theorem pieces_plain {c : Char} (hq : c ≠ '"') (hb : c ≠ '\\') (hc : 32 ≤ c.toNat)
    (rest : List Char) :
    pieces (c :: rest) = (pieces rest).map fun r ↦ (.char c :: r.1, r.2) := by
  -- The match on the character finds that it is no quote among the hypotheses.
  rw [pieces.eq_def]
  simp [hb, Nat.not_lt.mpr hc]

theorem pieces_control {c : Char} (hc : c.toNat < 32) (rest : List Char) :
    pieces ("\\u00".toList ++ Text.hexByte c.toNat.toUInt8 ++ rest) =
      (pieces rest).map fun r ↦ (.unit c.toNat :: r.1, r.2) := by
  have hdigits : ∀ n < 32,
      Text.number? 16 ['0', '0', Nat.digitChar (n / 16), Nat.digitChar (n % 16)] = some n := by
    decide
  have hn : c.toNat.toUInt8.toNat = c.toNat := UInt8.toNat_ofNat_of_lt' (hc.trans (by decide))
  rw [Text.hexByte, hn]
  change pieces ('\\' :: 'u' :: '0' :: '0' :: _ :: _ :: rest) = _
  rw [pieces, hdigits _ hc]

/-- Every character of a string is written so that it is read as one piece. -/
theorem exists_piece_escaped (c : Char) : ∃ p : Piece, p.IsFor c ∧
    ∀ rest, pieces (escaped c ++ rest) = (pieces rest).map fun r ↦ (p :: r.1, r.2) := by
  unfold escaped
  split
  any_goals exact ⟨_, Piece.isFor_char _, pieces_letter (by decide) rfl⟩
  next hq hb _ _ _ _ _ =>
    split
    · next hc => exact ⟨_, Piece.isFor_unit hc, pieces_control hc⟩
    · next hc => exact ⟨_, Piece.isFor_char c, pieces_plain hq hb (Nat.not_lt.mp hc)⟩

theorem exists_pieces (cs rest : List Char) : ∃ ps,
    pieces (cs.flatMap escaped ++ '"' :: rest) = some (ps, rest) ∧ assemble ps = some cs := by
  induction cs with
  | nil => exact ⟨[], by simp [pieces], rfl⟩
  | cons c cs ih =>
    obtain ⟨p, hp, hc⟩ := exists_piece_escaped c
    obtain ⟨ps, hps, ha⟩ := ih
    refine ⟨p :: ps, ?_, ?_⟩
    · rw [List.flatMap_cons, List.append_assoc, hc, hps]
      rfl
    · rw [hp, ha]
      rfl

/-- A string is read back from behind its opening quote. -/
theorem readString_printString (s : String) (rest : List Char) :
    readString ((printString s).tail ++ rest) = some (some s, rest) := by
  obtain ⟨ps, hps, ha⟩ := exists_pieces s.toList rest
  have ht : (printString s).tail ++ rest = s.toList.flatMap escaped ++ '"' :: rest := by
    simp [printString]
  simp only [readString, ht, hps, ha, Option.map_some, String.ofList_toList]

/-! ## Numbers -/

/-- A text that does not go on with a number before it. -/
def EndsNumber (rest : List Char) : Prop :=
  ∀ c ∈ rest.head?, Text.isDigit c = false ∧ c ≠ '.' ∧ c ≠ 'e' ∧ c ≠ 'E'

/-- The power of ten of an integer is none. Other numbers have texts of their own. -/
def Number.IsProper (n : Number) : Prop := n.isInteger = true → n.exponent = 0

theorem endsNumber_nil : EndsNumber [] := nofun

theorem digits_append {ds rest : List Char} (hd : ∀ c ∈ ds, Text.isDigit c = true)
    (hr : ∀ c ∈ rest.head?, Text.isDigit c = false) : digits (ds ++ rest) = (ds, rest) := by
  rw [digits, ← List.span_eq_takeWhile_dropWhile]
  exact Text.span_eq_iff.mpr ⟨rfl, hd, hr⟩

theorem value_toDigits (n : Nat) : value (Nat.toDigits 10 n) = n := by
  rw [value, Text.number?_toDigits]
  rfl

/-- A power of ten is read back. -/
theorem power_text (e : Int) {rest : List Char} (hr : EndsNumber rest) :
    power ('e' :: (toString e).toList ++ rest) = some (some e, rest) := by
  have hd (n : Nat) : digits (Nat.toDigits 10 n ++ rest) = (Nat.toDigits 10 n, rest) :=
    digits_append (fun _ hc ↦ Text.isDigit_of_mem_toDigits hc) fun c hc ↦ (hr c hc).1
  cases e with
  | ofNat n =>
    have ht : (toString (Int.ofNat n)).toList = Nat.toDigits 10 n := Text.toList_toString_nat n
    obtain ⟨d, ds, hds, hdig, -⟩ := Text.exists_toDigits n
    have hm := Text.ne_of_isDigit hdig (d := '-') (by decide)
    have hp := Text.ne_of_isDigit hdig (d := '+') (by decide)
    have hn := hd n
    have hv := value_toDigits n
    rw [hds] at hn hv
    rw [List.cons_append] at hn
    rw [ht, hds]
    simp [power, hm, hp, hn, hv]
  | negSucc n =>
    have ht : (toString (Int.negSucc n)).toList = '-' :: Nat.toDigits 10 (n + 1) := by
      have hs : toString (Int.negSucc n) = "-" ++ toString (n + 1) := rfl
      rw [hs, String.toList_append, Text.toList_toString_nat]
      simp
    obtain ⟨d, ds, hds, -, -⟩ := Text.exists_toDigits (n + 1)
    have hn := hd (n + 1)
    have hv := value_toDigits (n + 1)
    rw [hds] at hn hv
    rw [List.cons_append] at hn
    rw [ht, hds]
    simp only [power, List.cons_append, hn, hv, true_or, ↓reduceIte]
    rw [Int.negSucc_eq]
    rfl

theorem power_of_ends {rest : List Char} (hr : EndsNumber rest) :
    power rest = some (none, rest) := by
  cases rest with
  | nil => rfl
  | cons c rest =>
    obtain ⟨-, -, he, hE⟩ := hr c rfl
    simp [power, he, hE]

theorem fraction_of_no_point {rest : List Char} (hr : rest.head? ≠ some '.') :
    fraction rest = some (none, rest) := by
  cases rest with
  | nil => rfl
  | cons c rest =>
    have hc : c ≠ '.' := by simpa using hr
    simp [fraction, hc]

/-- The digits of a written number are read up to their end. -/
theorem whole_toDigits (n : Nat) {rest : List Char}
    (hr : ∀ c ∈ rest.head?, Text.isDigit c = false) :
    whole (Nat.toDigits 10 n ++ rest) = some (Nat.toDigits 10 n, rest) := by
  have hd : digits (Nat.toDigits 10 n ++ rest) = (Nat.toDigits 10 n, rest) :=
    digits_append (fun _ hc ↦ Text.isDigit_of_mem_toDigits hc) hr
  obtain ⟨d, ds, hds, -, hzero⟩ := Text.exists_toDigits n
  rw [hds] at hd ⊢
  by_cases hz : d = '0'
  · have hany : rest.head?.any Text.isDigit = false := by
      rw [Option.any_eq_false]
      simpa using hr
    rw [hzero hz, hz]
    simp [whole, hany]
  · rw [List.cons_append] at hd ⊢
    simp [whole, hz, hd]

theorem sign_toDigits (negative : Bool) (n : Nat) (rest : List Char) :
    sign ((if negative then ['-'] else []) ++ (Nat.toDigits 10 n ++ rest)) =
      (negative, Nat.toDigits 10 n ++ rest) := by
  obtain ⟨d, ds, hds, hdig, -⟩ := Text.exists_toDigits n
  have hm := Text.ne_of_isDigit hdig (d := '-') (by decide)
  cases negative with
  | true => rfl
  | false => simp [sign, hds, hm]

/-- A number is read back where its text ends. -/
theorem readNumber_printNumber {n : Number} (h : n.IsProper) {rest : List Char}
    (hr : EndsNumber rest) : readNumber (printNumber n ++ rest) = some (n, rest) := by
  obtain ⟨⟨negative, m, e⟩, isInteger⟩ := n
  obtain ⟨tail, htail⟩ : ∃ tail,
      (if isInteger then [] else 'e' :: (toString e).toList) ++ rest = tail := ⟨_, rfl⟩
  -- The text after the digits has neither more digits nor a fraction.
  have hend : tail.head? ≠ some '.' ∧ (∀ c ∈ tail.head?, Text.isDigit c = false) ∧
      power tail = some (if isInteger then none else some e, rest) := by
    rw [← htail]
    cases isInteger with
    | true => exact ⟨fun hc ↦ (hr '.' hc).2.1 rfl, fun c hc ↦ (hr c hc).1, power_of_ends hr⟩
    | false =>
      refine ⟨by simp, fun c hc ↦ ?_, power_text e hr⟩
      obtain rfl := Option.some.inj hc
      decide
  obtain ⟨hpoint, hdigit, hpower⟩ := hend
  rw [printNumber, Text.toList_toString_nat, List.append_assoc, List.append_assoc, htail,
    readNumber,
    sign_toDigits]
  simp only [whole_toDigits m hdigit, fraction_of_no_point hpoint, hpower, Option.bind_eq_bind,
    Option.bind_some, Option.getD_none, List.append_nil, List.length_nil, value_toDigits]
  cases isInteger with
  | true =>
    have he : e = 0 := h rfl
    simp [he]
  | false => simp

theorem exists_printNumber (n : Number) : ∃ c cs, printNumber n = c :: cs ∧
    (c = '-' ∨ Text.isDigit c = true) := by
  obtain ⟨d, ds, hds, hdig, -⟩ := Text.exists_toDigits n.mantissa
  rw [printNumber, Text.toList_toString_nat, hds]
  cases n.negative with
  | true => exact ⟨'-', _, rfl, .inl rfl⟩
  | false => exact ⟨d, _, rfl, .inr hdig⟩

/-! ## Space -/

/-- Characters that are space between the parts of a text. -/
def AllSpace (gap : List Char) : Prop := ∀ c ∈ gap, isSpace c = true

theorem skipSpace_append {gap : List Char} (h : AllSpace gap) (cs : List Char) :
    skipSpace (gap ++ cs) = skipSpace cs :=
  List.dropWhile_append_of_pos h

theorem skipSpace_cons {c : Char} (h : isSpace c = false) (cs : List Char) :
    skipSpace (c :: cs) = c :: cs :=
  List.dropWhile_cons_of_neg (by rw [h]; decide)

theorem skipSpace_skipSpace (cs : List Char) : skipSpace (skipSpace cs) = skipSpace cs :=
  List.dropWhile_idempotent isSpace cs

theorem allSpace_lineBreak (spread : Bool) (level : Nat) : AllSpace (lineBreak spread level) := by
  intro c hc
  rw [lineBreak] at hc
  split at hc
  · rcases List.mem_cons.mp hc with rfl | hc
    · decide
    · rw [List.eq_of_mem_replicate hc]
      decide
  · cases hc

/-- A character other than those of numbers ends a number. -/
theorem endsNumber_cons {c : Char} (h : c ∈ [',', ']', '\x7d', ' ', '\n', '\r', '\t'])
    (rest : List Char) : EndsNumber (c :: rest) := by
  intro d hd
  obtain rfl := Option.some.inj hd
  simp only [List.mem_cons, List.not_mem_nil, or_false] at h
  rcases h with rfl | rfl | rfl | rfl | rfl | rfl | rfl
  all_goals decide

theorem endsNumber_append {gap rest : List Char} (h : AllSpace gap) (hr : EndsNumber rest) :
    EndsNumber (gap ++ rest) := by
  cases gap with
  | nil => exact hr
  | cons c gap =>
    have hc := h c List.mem_cons_self
    simp only [isSpace, Bool.or_eq_true, beq_iff_eq] at hc
    refine endsNumber_cons ?_ (gap ++ rest)
    rcases hc with ((rfl | rfl) | rfl) | rfl
    all_goals decide

theorem readValue_skipSpace (fuel : Nat) (cs : List Char) :
    readValue fuel (skipSpace cs) = readValue fuel cs := by
  cases fuel with
  | zero => rw [readValue, readValue]
  | succ fuel => rw [readValue, readValue, skipSpace_skipSpace]

theorem readItems_skipSpace (fuel : Nat) (cs : List Char) :
    readItems fuel (skipSpace cs) = readItems fuel cs := by
  cases fuel with
  | zero => rw [readItems, readItems]
  | succ fuel => rw [readItems, readItems, readValue_skipSpace]

theorem readMembers_skipSpace (fuel : Nat) (cs : List Char) :
    readMembers fuel (skipSpace cs) = readMembers fuel cs := by
  cases fuel with
  | zero => rw [readMembers, readMembers]
  | succ fuel => rw [readMembers, readMembers, skipSpace_skipSpace]

/-! ## Values -/

/-- A text is read as a value wherever it stands: with space before it, and before a text that does
not go on with a number. -/
def ReadsAs (text : List Char) (v : Json) : Prop :=
  ∀ fuel gap rest, AllSpace gap → EndsNumber rest → 2 * text.length ≤ fuel →
    readValue fuel (gap ++ (text ++ rest)) = some (v, rest)

/-- Reading a value starts at its first character. -/
theorem ReadsAs.of_cons {c : Char} {cs : List Char} {v : Json}
    (h : ∀ fuel rest, EndsNumber rest → 2 * cs.length < fuel →
      readValue (fuel + 1) (c :: (cs ++ rest)) = some (v, rest)) : ReadsAs (c :: cs) v := by
  intro fuel gap rest hgap hrest hfuel
  rw [List.length_cons] at hfuel
  obtain ⟨fuel, rfl⟩ : ∃ n, fuel = n + 1 := ⟨fuel - 1, by omega⟩
  rw [← readValue_skipSpace, skipSpace_append hgap, readValue_skipSpace]
  exact h fuel rest hrest (by omega)

theorem word_append (w : String) (v : Json) (rest : List Char) :
    word w v (w.toList ++ rest) = some (v, rest) := by
  have hp : w.toList.isPrefixOf (w.toList ++ rest) = true :=
    List.isPrefixOf_iff_prefix.mpr (List.prefix_append w.toList rest)
  rw [word, if_pos hp, ← String.length_toList, List.drop_left]

theorem readsAs_null : ReadsAs ('n' :: "ull".toList) null := by
  refine .of_cons fun fuel rest _ _ ↦ ?_
  rw [readValue, skipSpace_cons (by decide)]
  exact word_append "ull" null rest

theorem readsAs_true : ReadsAs ('t' :: "rue".toList) (bool true) := by
  refine .of_cons fun fuel rest _ _ ↦ ?_
  rw [readValue, skipSpace_cons (by decide)]
  exact word_append "rue" (bool true) rest

theorem readsAs_false : ReadsAs ('f' :: "alse".toList) (bool false) := by
  refine .of_cons fun fuel rest _ _ ↦ ?_
  rw [readValue, skipSpace_cons (by decide)]
  exact word_append "alse" (bool false) rest

theorem readsAs_string (s : String) : ReadsAs ('"' :: (printString s).tail) (text s) := by
  refine .of_cons fun fuel rest _ _ ↦ ?_
  rw [readValue, skipSpace_cons (by decide)]
  simp only [readString_printString, Option.map_some]
  rfl

/-- The first character of a number is no other character that a value starts with. -/
theorem ne_of_startsNumber {c d : Char} (hc : c = '-' ∨ Text.isDigit c = true)
    (hd : d ≠ '-' ∧ Text.isDigit d = false) : c ≠ d := by
  rcases hc with rfl | hc
  · exact hd.1.symm
  · exact Text.ne_of_isDigit hc hd.2

theorem isSpace_of_number {c : Char} (hc : c = '-' ∨ Text.isDigit c = true) :
    isSpace c = false := by
  simp only [isSpace, Bool.or_eq_false_iff, beq_eq_false_iff_ne]
  refine ⟨⟨⟨?_, ?_⟩, ?_⟩, ?_⟩
  all_goals exact ne_of_startsNumber hc (by decide)

theorem readsAs_number {n : Number} (h : n.IsProper) : ReadsAs (printNumber n) (number n) := by
  obtain ⟨c, cs, hp, hc⟩ := exists_printNumber n
  rw [hp]
  refine .of_cons fun fuel rest hrest _ ↦ ?_
  have hread := readNumber_printNumber h hrest
  rw [hp, List.cons_append] at hread
  have hne {d : Char} (hd : d ≠ '-' ∧ Text.isDigit d = false) : c ≠ d := ne_of_startsNumber hc hd
  rw [readValue, skipSpace_cons (isSpace_of_number hc)]
  simp [hne (d := 'n') (by decide), hne (d := 't') (by decide), hne (d := 'f') (by decide),
    hne (d := '"') (by decide), hne (d := '[') (by decide), hne (d := '\x7b') (by decide), hread]

/-! ## Arrays and objects -/

/-- A value that has a text of its own: its strings denote texts, and its integers have no power of
ten. -/
inductive IsProper : Json → Prop
  | null : IsProper null
  | bool (b : Bool) : IsProper (bool b)
  | number {n : Number} (h : n.IsProper) : IsProper (number n)
  | text (s : String) : IsProper (text s)
  | array {items : List Json} (h : ∀ item ∈ items, IsProper item) : IsProper (array items)
  | object {members : List (Option String × Json)} (hnames : ∀ m ∈ members, m.1.isSome = true)
    (hvalues : ∀ m ∈ members, IsProper m.2) : IsProper (object members)

/-- The text of a member. -/
def printMember (spread : Bool) (level : Nat) (m : Option String × Json) : List Char :=
  printString (m.1.getD "") ++ ':' :: (if spread then [' '] else []) ++ print spread level m.2

theorem printItems_eq_map (spread : Bool) (level : Nat) (items : List Json) :
    printItems spread level items = items.map (print spread level) := by
  induction items with
  | nil => rfl
  | cons item items ih => rw [printItems, ih, List.map_cons]

theorem printMembers_eq_map (spread : Bool) (level : Nat)
    (members : List (Option String × Json)) :
    printMembers spread level members = members.map (printMember spread level) := by
  induction members with
  | nil => rfl
  | cons member members ih => rw [printMembers, ih, List.map_cons, printMember]

/-- A value starts with a character that is no space and does not close an array. -/
theorem exists_print (spread : Bool) (level : Nat) (v : Json) :
    ∃ c cs, print spread level v = c :: cs ∧ isSpace c = false ∧ c ≠ ']' := by
  cases v with
  | null => exact ⟨'n', _, rfl, rfl, by decide⟩
  | bool b => cases b <;> exact ⟨_, _, rfl, rfl, by decide⟩
  | number n =>
    obtain ⟨c, cs, hp, hc⟩ := exists_printNumber n
    exact ⟨c, cs, hp, isSpace_of_number hc, by rintro rfl; revert hc; decide⟩
  | string s => exact ⟨'"', _, rfl, rfl, by decide⟩
  | array items => cases items <;> exact ⟨'[', _, rfl, rfl, by decide⟩
  | object members => cases members <;> exact ⟨'\x7b', _, rfl, rfl, by decide⟩

/-- Separated texts start with the first one. -/
theorem exists_separated {gap : List Char} (hgap : AllSpace gap) {c : Char} (cs : List Char)
    (hc : isSpace c = false) (others : List (List Char)) : ∃ tail, ∀ rest,
      skipSpace (separated gap ((c :: cs) :: others) ++ rest) = c :: (tail ++ rest) := by
  cases others with
  | nil =>
    refine ⟨cs, fun rest ↦ ?_⟩
    rw [separated, List.append_assoc, skipSpace_append hgap]
    exact skipSpace_cons hc _
  | cons other others =>
    refine ⟨cs ++ ',' :: separated gap (other :: others), fun rest ↦ ?_⟩
    have hs : separated gap ((c :: cs) :: other :: others) =
        gap ++ (c :: cs) ++ ',' :: separated gap (other :: others) := rfl
    rw [hs, List.append_assoc, List.append_assoc, skipSpace_append hgap, List.cons_append,
      skipSpace_cons hc, List.append_assoc]

section Separated

variable {gap last : List Char} {spread : Bool} {level fuel : Nat}

/-- Items are read up to the bracket that closes their array. -/
theorem readItems_separated (hgap : AllSpace gap) (hlast : AllSpace last) {items : List Json}
    (hne : items ≠ []) (h : ∀ item ∈ items, ReadsAs (print spread level item) item)
    (hfuel : 2 * (separated gap (items.map (print spread level))).length < fuel)
    (rest : List Char) :
    readItems fuel (separated gap (items.map (print spread level)) ++ (last ++ ']' :: rest)) =
      some (items, rest) := by
  induction items generalizing fuel with
  | nil => exact absurd rfl hne
  | cons item items ih =>
    have hitem := h item List.mem_cons_self
    obtain ⟨fuel, rfl⟩ : ∃ n, fuel = n + 1 := ⟨fuel - 1, by omega⟩
    cases items with
    | nil =>
      simp only [List.map_cons, List.map_nil, separated, List.length_append] at hfuel ⊢
      have hend : EndsNumber (last ++ ']' :: rest) :=
        endsNumber_append hlast (endsNumber_cons (by decide) rest)
      rw [readItems, List.append_assoc, hitem fuel gap _ hgap hend (by omega)]
      simp only [skipSpace_append hlast, skipSpace_cons (show isSpace ']' = false by decide)]
    | cons next items =>
      have hs : separated gap ((item :: next :: items).map (print spread level)) =
          gap ++ print spread level item ++
            ',' :: separated gap ((next :: items).map (print spread level)) := rfl
      rw [hs] at hfuel ⊢
      simp only [List.length_append, List.length_cons] at hfuel
      have hrest : readItems fuel (separated gap ((next :: items).map (print spread level)) ++
          (last ++ ']' :: rest)) = some (next :: items, rest) :=
        ih (List.cons_ne_nil next items) (fun i hi ↦ h i (List.mem_cons_of_mem _ hi)) (by omega)
      rw [readItems, List.append_assoc, List.append_assoc, List.cons_append,
        hitem fuel gap _ hgap (endsNumber_cons (by decide) _) (by omega)]
      simp only [skipSpace_cons (show isSpace ',' = false by decide), hrest, Option.map_some]

theorem allSpace_afterColon (spread : Bool) : AllSpace (if spread then [' '] else []) := by
  intro c hc
  split at hc
  · rw [List.mem_singleton.mp hc]
    decide
  · cases hc

/-- A member starts with its name, and its value follows a colon. -/
theorem skipSpace_printMember (hgap : AllSpace gap) (s : String) (v : Json) (tail : List Char) :
    skipSpace (gap ++ (printMember spread level (some s, v) ++ tail)) =
      '"' :: ((printString s).tail ++
        (':' :: ((if spread then [' '] else []) ++ (print spread level v ++ tail)))) := by
  rw [skipSpace_append hgap, printMember]
  simp only [List.append_assoc, List.cons_append]
  exact skipSpace_cons (by decide) _

/-- Members are read up to the brace that closes their object. -/
theorem readMembers_separated (hgap : AllSpace gap) (hlast : AllSpace last)
    {members : List (Option String × Json)} (hne : members ≠ [])
    (hnames : ∀ m ∈ members, m.1.isSome = true)
    (h : ∀ m ∈ members, ReadsAs (print spread level m.2) m.2)
    (hfuel : 2 * (separated gap (members.map (printMember spread level))).length < fuel)
    (rest : List Char) :
    readMembers fuel
        (separated gap (members.map (printMember spread level)) ++ (last ++ '\x7d' :: rest)) =
      some (members, rest) := by
  induction members generalizing fuel with
  | nil => exact absurd rfl hne
  | cons member members ih =>
    obtain ⟨name, v⟩ := member
    obtain ⟨s, rfl⟩ := Option.isSome_iff_exists.mp (hnames _ List.mem_cons_self)
    have hv : ReadsAs (print spread level v) v := h _ List.mem_cons_self
    have hlen : (print spread level v).length < (printMember spread level (some s, v)).length := by
      simp only [printMember, List.length_append, List.length_cons]
      omega
    obtain ⟨fuel, rfl⟩ : ∃ n, fuel = n + 1 := ⟨fuel - 1, by omega⟩
    cases members with
    | nil =>
      simp only [List.map_cons, List.map_nil, separated, List.length_append] at hfuel ⊢
      have hend : EndsNumber (last ++ '\x7d' :: rest) :=
        endsNumber_append hlast (endsNumber_cons (by decide) rest)
      have hread := hv fuel _ _ (allSpace_afterColon spread) hend (by omega)
      rw [readMembers, List.append_assoc, skipSpace_printMember hgap]
      simp only [readString_printString, skipSpace_cons (show isSpace ':' = false by decide), hread,
        skipSpace_append hlast, skipSpace_cons (show isSpace '\x7d' = false by decide)]
    | cons next members =>
      have hs : separated gap (((some s, v) :: next :: members).map (printMember spread level)) =
          gap ++ printMember spread level (some s, v) ++
            ',' :: separated gap ((next :: members).map (printMember spread level)) := rfl
      rw [hs] at hfuel ⊢
      simp only [List.length_append, List.length_cons] at hfuel
      have hrest : readMembers fuel (separated gap ((next :: members).map
          (printMember spread level)) ++ (last ++ '\x7d' :: rest)) = some (next :: members, rest) :=
        ih (List.cons_ne_nil next members) (fun m hm ↦ hnames m (List.mem_cons_of_mem _ hm))
          (fun m hm ↦ h m (List.mem_cons_of_mem _ hm)) (by omega)
      have hread := hv fuel _ _ (allSpace_afterColon spread)
        (endsNumber_cons (show ',' ∈ _ by decide) (separated gap ((next :: members).map
          (printMember spread level)) ++ (last ++ '\x7d' :: rest))) (by omega)
      rw [readMembers, List.append_assoc, List.append_assoc, List.cons_append,
        skipSpace_printMember hgap]
      simp only [readString_printString, skipSpace_cons (show isSpace ':' = false by decide), hread,
        skipSpace_cons (show isSpace ',' = false by decide), hrest, Option.map_some]

end Separated

theorem readsAs_array {spread : Bool} {level : Nat} {items : List Json}
    (h : ∀ item ∈ items, ReadsAs (print spread (level + 1) item) item) :
    ReadsAs (print spread level (array items)) (array items) := by
  cases items with
  | nil =>
    refine .of_cons fun fuel rest _ _ ↦ ?_
    rw [readValue, skipSpace_cons (by decide)]
    simp [skipSpace_cons (show isSpace ']' = false by decide)]
  | cons item items =>
    have hprint : print spread level (array (item :: items)) =
        '[' :: (separated (lineBreak spread (level + 1))
          ((item :: items).map (print spread (level + 1))) ++
            (lineBreak spread level ++ [']'])) := by
      rw [print, printItems_eq_map, List.cons_append, List.cons_append, List.append_assoc]
    rw [hprint]
    refine .of_cons fun fuel rest _ hfuel ↦ ?_
    rw [List.length_append] at hfuel
    have hread : readItems fuel (separated _ _ ++ (lineBreak spread level ++ ']' :: rest)) = _ :=
      readItems_separated (allSpace_lineBreak spread (level + 1)) (allSpace_lineBreak spread level)
        (List.cons_ne_nil item items) h (by omega) rest
    obtain ⟨c, cs, hp, hc, hclose⟩ := exists_print spread (level + 1) item
    obtain ⟨tail, ht⟩ := exists_separated (allSpace_lineBreak spread (level + 1)) cs hc
      (items.map (print spread (level + 1)))
    rw [← readItems_skipSpace, List.map_cons, hp, ht] at hread
    rw [readValue, skipSpace_cons (by decide)]
    simp only [List.map_cons, hp, List.append_assoc, List.cons_append, List.nil_append, ht]
    simp [hread, hclose]

theorem readsAs_object {spread : Bool} {level : Nat} {members : List (Option String × Json)}
    (hnames : ∀ m ∈ members, m.1.isSome = true)
    (h : ∀ m ∈ members, ReadsAs (print spread (level + 1) m.2) m.2) :
    ReadsAs (print spread level (object members)) (object members) := by
  cases members with
  | nil =>
    refine .of_cons fun fuel rest _ _ ↦ ?_
    rw [readValue, skipSpace_cons (by decide)]
    simp [skipSpace_cons (show isSpace '\x7d' = false by decide)]
  | cons member members =>
    have hprint : print spread level (object (member :: members)) =
        '\x7b' :: (separated (lineBreak spread (level + 1))
          ((member :: members).map (printMember spread (level + 1))) ++
            (lineBreak spread level ++ ['\x7d'])) := by
      rw [print, printMembers_eq_map, List.cons_append, List.cons_append, List.append_assoc]
    rw [hprint]
    refine .of_cons fun fuel rest _ hfuel ↦ ?_
    rw [List.length_append] at hfuel
    have hread :
        readMembers fuel (separated _ _ ++ (lineBreak spread level ++ '\x7d' :: rest)) = _ :=
      readMembers_separated (allSpace_lineBreak spread (level + 1))
        (allSpace_lineBreak spread level) (List.cons_ne_nil member members) hnames h (by omega) rest
    obtain ⟨cs, hp⟩ : ∃ cs, printMember spread (level + 1) member = '"' :: cs := ⟨_, rfl⟩
    obtain ⟨tail, ht⟩ := exists_separated (allSpace_lineBreak spread (level + 1)) cs
      (show isSpace '"' = false by decide) (members.map (printMember spread (level + 1)))
    rw [← readMembers_skipSpace, List.map_cons, hp, ht] at hread
    rw [readValue, skipSpace_cons (by decide)]
    simp only [List.map_cons, hp, List.append_assoc, List.cons_append, List.nil_append, ht]
    simp [hread]

/-- A value is read from what is written for it. -/
theorem readsAs_print {v : Json} (h : v.IsProper) (spread : Bool) (level : Nat) :
    ReadsAs (print spread level v) v := by
  induction h generalizing level with
  | null => exact readsAs_null
  | bool b =>
    cases b with
    | true => exact readsAs_true
    | false => exact readsAs_false
  | number h => exact readsAs_number h
  | text s => exact readsAs_string s
  | array _ ih => exact readsAs_array fun item hi ↦ ih item hi (level + 1)
  | object hnames _ ih => exact readsAs_object hnames fun m hm ↦ ih m hm (level + 1)

/-- A whole text that is written is read back, on one line and over several. -/
theorem read?_print {v : Json} (h : v.IsProper) (spread : Bool) :
    read? (print spread 0 v) = some v := by
  have hread := readsAs_print h spread 0 (2 * (print spread 0 v).length + 1) [] [] nofun
    endsNumber_nil (by omega)
  rw [List.nil_append, List.append_nil] at hread
  simp only [read?, hread]
  rfl

end ProxySettings.Json
