import ProxySettings.Idna.Domain
import ProxySettings.Proofs.DecimalText
import ProxySettings.Proofs.Punycode

/-!
# Domain names in ASCII stay as they are

A domain name is made of labels that fit, each of which is written in ASCII. Reading a name that was
made this way finds the same labels, so it makes the same name.
-/

namespace ProxySettings.Idna

/-! ## Characters -/

/-- The characters of ASCII that mapping keeps: all but capitals. -/
structure IsPlain (c : Char) : Prop where
  ascii : c.toNat < 128
  toLower : c.toLower = c

theorem target?_of_isPlain {c : Char} (h : IsPlain c) : target? c = some [c] := by
  rw [target?, if_pos h.ascii, h.toLower]

theorem isPlain_of_isKept {c : Char} (h : isKept c = true) (ha : c.toNat < 128) : IsPlain c := by
  rw [isKept, beq_iff_eq, target?, if_pos ha, Option.some.injEq, List.cons.injEq] at h
  exact ⟨ha, h.1⟩

theorem isPlain_of_isDigit {c : Char} (h : Punycode.IsDigit c) : IsPlain c := by
  obtain ⟨d, hd, rfl⟩ := h
  have hall : ∀ d < 36, (Punycode.digitChar d).toNat < 128 ∧
      (Punycode.digitChar d).toLower = Punycode.digitChar d := by
    decide
  exact ⟨(hall d hd).1, (hall d hd).2⟩

/-- A plain text is mapped and composed to itself. -/
theorem mapped?_of_isPlain {cs : List Char} (h : ∀ c ∈ cs, IsPlain c) : mapped? cs = some cs := by
  have hmap : cs.mapM target? = some (cs.map ([·])) := by
    induction cs with
    | nil => rfl
    | cons c cs ih =>
      obtain ⟨hc, hcs⟩ := List.forall_mem_cons.mp h
      rw [List.mapM_cons, target?_of_isPlain hc, ih hcs]
      rfl
  rw [mapped?, hmap, Option.map_some, ← List.flatMap_def, List.flatMap_singleton']

/-! ## Labels -/

/-- A label without the mark is read as it is, one with the mark only as a label beyond ASCII. -/
theorem readLabel_eq_some_iff {label text : List Char} : readLabel label = some text ↔
    (mark.isPrefixOf label = false ∧ text = label) ∨
      (mark.isPrefixOf label = true ∧
        Punycode.decode? (label.drop mark.length) = some text ∧ isAscii text = false) := by
  rw [readLabel]
  cases mark.isPrefixOf label with
  | false =>
    constructor
    · exact fun h ↦ .inl ⟨rfl, (Option.some.inj h).symm⟩
    · rintro (⟨-, rfl⟩ | ⟨h, -⟩)
      · rfl
      · cases h
  | true =>
    rw [if_pos rfl, Option.bind_eq_bind, Option.bind_eq_some_iff]
    constructor
    · rintro ⟨t, hd, h⟩
      obtain ⟨ha, h⟩ := guard_bind_eq_some_iff.mp h
      obtain rfl := Option.some.inj h
      exact .inr ⟨rfl, hd, (Bool.not_eq_true' _).mp ha⟩
    · rintro (⟨h, -⟩ | ⟨-, hd, ha⟩)
      · cases h
      · exact ⟨text, hd, guard_bind_eq_some_iff.mpr ⟨(Bool.not_eq_true' _).mpr ha, rfl⟩⟩

/-- A label that is read from somewhere is read from what it is written as. -/
theorem readLabel_writeLabel {label text : List Char} (h : readLabel label = some text) :
    readLabel (writeLabel text) = some text := by
  rw [writeLabel]
  split
  · next ha =>
    -- A label in ASCII had no mark to begin with: behind a mark it would have been refused.
    rcases readLabel_eq_some_iff.mp h with ⟨-, rfl⟩ | ⟨-, -, hn⟩
    · exact h
    · rw [ha] at hn
      cases hn
  · next ha =>
    have hmark : mark.isPrefixOf (mark ++ Punycode.encode text) = true :=
      List.isPrefixOf_iff_prefix.mpr (List.prefix_append _ _)
    refine readLabel_eq_some_iff.mpr (.inr ⟨hmark, ?_, Bool.eq_false_iff.mpr ha⟩)
    rw [List.drop_left, Punycode.decode?_encode]

/-- A label that fits is written in plain characters. -/
theorem isPlain_of_mem_writeLabel {text : List Char} {c : Char} (h : isValid text = true)
    (hc : c ∈ writeLabel text) : IsPlain c := by
  have hkept : ∀ c ∈ text, isKept c = true := by
    simp only [isValid, Bool.and_eq_true, List.all_eq_true] at h
    exact h.1.1.1
  rw [writeLabel] at hc
  split at hc
  · next ha =>
    rw [isAscii, List.all_eq_true] at ha
    exact isPlain_of_isKept (hkept c hc) (of_decide_eq_true (ha c hc))
  · rcases List.mem_append.mp hc with hc | hc
    · have hall : mark.all (fun c ↦ c.toNat < 128 && c.toLower == c) = true := by decide
      have hplain := List.all_eq_true.mp hall c hc
      rw [Bool.and_eq_true, decide_eq_true_eq, beq_iff_eq] at hplain
      exact ⟨hplain.1, hplain.2⟩
    · rcases Punycode.mem_encode hc with ⟨hc, ha⟩ | rfl | hc
      · exact isPlain_of_isKept (hkept c hc) ha
      · exact ⟨by decide, by decide⟩
      · exact isPlain_of_isDigit hc

theorem dot_notMem_of_readLabel {label text : List Char} (h : readLabel label = some text)
    (hl : '.' ∉ label) : '.' ∉ text := by
  rcases readLabel_eq_some_iff.mp h with ⟨-, rfl⟩ | ⟨-, hd, -⟩
  · exact hl
  · intro hm
    rcases Punycode.mem_of_decode? hd _ hm with hm | hm
    · exact hl (List.mem_of_mem_drop hm)
    · exact absurd hm (by decide)

theorem dot_notMem_writeLabel {text : List Char} (h : '.' ∉ text) : '.' ∉ writeLabel text := by
  rw [writeLabel]
  split
  · exact h
  · rw [List.mem_append, not_or]
    refine ⟨by decide, fun hm ↦ ?_⟩
    rcases Punycode.mem_encode hm with ⟨hm, -⟩ | he | ⟨d, hd, he⟩
    · exact h hm
    · cases he
    · have hall : ∀ d < 36, '.' ≠ Punycode.digitChar d := by decide
      exact hall d hd he

/-! ## Names -/

/-- A name: its labels in ASCII, with dots between them. -/
def joined (texts : List (List Char)) : List Char := ['.'].intercalate (texts.map writeLabel)

/-- Labels make a name if they fit, one by one and in the direction in which they display, and the
name has no character that separates the parts of an address. -/
structure Fit (texts : List (List Char)) : Prop where
  valid : texts.all isValid = true
  direction : (!texts.any (·.any isRightToLeft) || texts.all displays) = true
  allowed : (!(joined texts).any isForbidden) = true

/-- The labels of a text that is mapped and composed. -/
def labels? (cs : List Char) : Option (List (List Char)) :=
  (Text.splitOnAll (· == '.') (Unicode.composed cs)).mapM readLabel

theorem toAscii?_eq_some_iff {domain name : List Char} : toAscii? domain = some name ↔
    ∃ mapped texts, mapped? domain = some mapped ∧ labels? mapped = some texts ∧ Fit texts ∧
      name = joined texts := by
  rw [toAscii?, Option.bind_eq_bind, Option.bind_eq_some_iff]
  constructor
  · rintro ⟨mapped, hm, h⟩
    obtain ⟨texts, ht, h⟩ := Option.bind_eq_some_iff.mp h
    obtain ⟨hv, h⟩ := guard_bind_eq_some_iff.mp h
    obtain ⟨hd, h⟩ := guard_bind_eq_some_iff.mp h
    obtain ⟨ha, h⟩ := guard_bind_eq_some_iff.mp h
    obtain rfl := Option.some.inj h
    exact ⟨mapped, texts, hm, ht, ⟨hv, hd, ha⟩, rfl⟩
  · rintro ⟨mapped, texts, hm, ht, ⟨hv, hd, ha⟩, rfl⟩
    refine ⟨mapped, hm, Option.bind_eq_some_iff.mpr ⟨texts, ht, ?_⟩⟩
    refine guard_bind_eq_some_iff.mpr ⟨hv, guard_bind_eq_some_iff.mpr ⟨hd, ?_⟩⟩
    exact guard_bind_eq_some_iff.mpr ⟨ha, rfl⟩

theorem isPlain_of_mem_joined {texts : List (List Char)} (h : texts.all isValid = true) {c : Char}
    (hc : c ∈ joined texts) : IsPlain c := by
  rcases Text.eq_or_exists_of_mem_intercalate hc with rfl | ⟨piece, hp, hc⟩
  · exact ⟨by decide, by decide⟩
  · obtain ⟨text, ht, rfl⟩ := List.mem_map.mp hp
    exact isPlain_of_mem_writeLabel (List.all_eq_true.mp h text ht) hc

theorem composed_of_isPlain {cs : List Char} (h : ∀ c ∈ cs, IsPlain c) :
    Unicode.composed cs = cs :=
  Unicode.composed_eq_self fun c hc ↦ Nat.lt_trans (h c hc).ascii (by decide)

/-- The labels of a name are those that it is made of. -/
theorem labels?_joined {cs : List Char} {texts : List (List Char)} (h : labels? cs = some texts)
    (hv : texts.all isValid = true) : labels? (joined texts) = some texts := by
  have hread : ∀ text ∈ texts, '.' ∉ text ∧ readLabel (writeLabel text) = some text := by
    intro text ht
    obtain ⟨label, hl, hr⟩ := exists_of_mem_mapM h ht
    refine ⟨dot_notMem_of_readLabel hr fun hm ↦ ?_, readLabel_writeLabel hr⟩
    exact absurd (Text.eq_false_of_mem_splitOnAll hl hm) (by decide)
  have hne : texts.map writeLabel ≠ [] := by
    intro he
    obtain ⟨label, labels, hl⟩ := List.exists_cons_of_ne_nil
      (Text.splitOnAll_ne_nil (· == '.') (Unicode.composed cs))
    rw [List.map_eq_nil_iff.mp he, labels?, hl, List.mapM_cons] at h
    obtain ⟨_, -, h⟩ := Option.bind_eq_some_iff.mp h
    obtain ⟨_, -, h⟩ := Option.bind_eq_some_iff.mp h
    cases h
  have hdot : ∀ piece ∈ texts.map writeLabel, '.' ∉ piece := by
    rw [List.forall_mem_map]
    exact fun text ht ↦ dot_notMem_writeLabel (hread text ht).1
  rw [labels?, composed_of_isPlain fun c hc ↦ isPlain_of_mem_joined hv hc, joined,
    Text.splitOnAll_intercalate hdot hne]
  exact mapM_map_eq_some fun text ht ↦ (hread text ht).2

/-- A name in ASCII is its own. -/
theorem toAscii?_of_toAscii? {domain name : List Char} (h : toAscii? domain = some name) :
    toAscii? name = some name := by
  obtain ⟨mapped, texts, -, ht, hfit, rfl⟩ := toAscii?_eq_some_iff.mp h
  exact toAscii?_eq_some_iff.mpr ⟨joined texts, texts,
    mapped?_of_isPlain fun c hc ↦ isPlain_of_mem_joined hfit.valid hc,
    labels?_joined ht hfit.valid, hfit, rfl⟩

/-- A name has plain characters, and none that separates the parts of an address. -/
theorem forall_mem_name {domain name : List Char} (h : toAscii? domain = some name) :
    ∀ c ∈ name, IsPlain c ∧ isForbidden c = false := by
  obtain ⟨mapped, texts, -, -, hfit, rfl⟩ := toAscii?_eq_some_iff.mp h
  have hallowed := (Bool.not_eq_true' _).mp hfit.allowed
  intro c hc
  exact ⟨isPlain_of_mem_joined hfit.valid hc,
    Bool.eq_false_iff.mpr (List.any_eq_false.mp hallowed c hc)⟩

/-! ## Names of digits -/

theorem isPlain_of_decimal {c : Char} (h : Text.isDigit c = true) : IsPlain c := by
  rw [Text.isDigit_iff] at h
  refine ⟨by omega, Char.ext (UInt32.toNat_inj.mp ?_)⟩
  have hl := Text.toNat_toLower c
  rw [if_neg (by omega)] at hl
  exact hl

theorem joinersFit_of_isPlain {before label : List Char} (h : ∀ c ∈ label, IsPlain c) :
    joinersFit before label = true := by
  induction label generalizing before with
  | nil => rfl
  | cons c label ih =>
    obtain ⟨hc, hlabel⟩ := List.forall_mem_cons.mp h
    have ha := hc.ascii
    have hjoiner : isJoiner c = false := by
      rw [isJoiner, Bool.or_eq_false_iff, beq_eq_false_iff_ne, beq_eq_false_iff_ne]
      omega
    rw [joinersFit, hjoiner, ih hlabel]
    rfl

theorem isValid_of_isPlain {label : List Char} (h : ∀ c ∈ label, IsPlain c) :
    isValid label = true := by
  have hkept : label.all isKept = true := by
    rw [List.all_eq_true]
    intro c hc
    rw [isKept, target?_of_isPlain (h c hc), beq_self_eq_true]
  have hmark : startsWithMark label = false := by
    cases label with
    | nil => rfl
    | cons c label =>
      have ha := (h c List.mem_cons_self).ascii
      exact Unicode.Category.contains_mark_of_lt (by omega)
  rw [isValid, hkept, composed_of_isPlain h, hmark, joinersFit_of_isPlain h, beq_self_eq_true]
  rfl

theorem isRightToLeft_of_decimal {c : Char} (h : Text.isDigit c = true) :
    isRightToLeft c = false := by
  rw [isRightToLeft, Unicode.direction_eq_europeanNumber (Text.isDigit_iff.mp h)]
  rfl

theorem isForbidden_of_decimal {c : Char} (h : Text.isDigit c = true) : isForbidden c = false := by
  have hall : "%#/:<>?@[\\]^|".toList.any Text.isDigit = false := by decide
  have hmem : "%#/:<>?@[\\]^|".toList.contains c = false := by
    rw [List.contains_eq_mem, decide_eq_false_iff_not]
    exact fun hm ↦ List.any_eq_false.mp hall c hm h
  rw [Text.isDigit_iff] at h
  rw [isForbidden, hmem, Bool.or_false, Bool.or_eq_false_iff, decide_eq_false_iff_not,
    beq_eq_false_iff_ne]
  omega

theorem writeLabel_of_isPlain {label : List Char} (h : ∀ c ∈ label, IsPlain c) :
    writeLabel label = label :=
  if_pos (List.all_eq_true.mpr fun c hc ↦ decide_eq_true (h c hc).ascii)

theorem readLabel_of_decimal {label : List Char} (h : ∀ c ∈ label, Text.isDigit c = true) :
    readLabel label = some label := by
  refine readLabel_eq_some_iff.mpr (.inl ⟨Bool.eq_false_iff.mpr fun hp ↦ ?_, rfl⟩)
  obtain ⟨rest, rfl⟩ := List.isPrefixOf_iff_prefix.mp hp
  exact absurd (h 'x' (List.mem_append_left _ (by decide))) (by decide)

/-- Digits with dots between them are a name. -/
theorem toAscii?_of_decimal {labels : List (List Char)} (hne : labels ≠ [])
    (h : ∀ label ∈ labels, ∀ c ∈ label, Text.isDigit c = true) :
    toAscii? (['.'].intercalate labels) = some (['.'].intercalate labels) := by
  have hplain : ∀ label ∈ labels, ∀ c ∈ label, IsPlain c :=
    fun label hl c hc ↦ isPlain_of_decimal (h label hl c hc)
  have hjoined : joined labels = ['.'].intercalate labels := by
    rw [joined, List.map_congr_left fun label hl ↦ writeLabel_of_isPlain (hplain label hl),
      List.map_id']
  have hvalid : labels.all isValid = true :=
    List.all_eq_true.mpr fun label hl ↦ isValid_of_isPlain (hplain label hl)
  have hdirection : labels.any (·.any isRightToLeft) = false := by
    refine List.any_eq_false.mpr fun label hl ↦ Bool.eq_false_iff.mp ?_
    refine List.any_eq_false.mpr fun c hc ↦ Bool.eq_false_iff.mp ?_
    exact isRightToLeft_of_decimal (h label hl c hc)
  have hallowed : (joined labels).any isForbidden = false := by
    refine List.any_eq_false.mpr fun c hc ↦ Bool.eq_false_iff.mp ?_
    rw [hjoined] at hc
    rcases Text.eq_or_exists_of_mem_intercalate hc with rfl | ⟨label, hl, hc⟩
    · decide
    · exact isForbidden_of_decimal (h label hl c hc)
  have hlabels : labels? (joined labels) = some labels := by
    have hdot : ∀ label ∈ labels, '.' ∉ label :=
      fun label hl hm ↦ absurd (h label hl '.' hm) (by decide)
    rw [labels?, composed_of_isPlain fun c hc ↦ isPlain_of_mem_joined hvalid hc, hjoined,
      Text.splitOnAll_intercalate hdot hne]
    have hread := mapM_map_eq_some fun label hl ↦ readLabel_of_decimal (h label hl)
    rwa [List.map_id'] at hread
  rw [← hjoined]
  refine toAscii?_eq_some_iff.mpr ⟨joined labels, labels,
    mapped?_of_isPlain fun c hc ↦ isPlain_of_mem_joined hvalid hc, hlabels,
    ⟨hvalid, ?_, ?_⟩, rfl⟩
  · rw [hdirection]
    rfl
  · rw [hallowed]
    rfl

end ProxySettings.Idna
