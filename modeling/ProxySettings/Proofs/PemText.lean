import ProxySettings.Proofs.PemContent

/-!
# PEM texts that are written and read back

A file of sections, with other lines between them, is read as these sections, in order. It does not
count where the content of a section is cut into rows, nor how the lines end.
-/

namespace ProxySettings.Pem

/-! ## Starts and ends -/

/-- The line that starts a section. -/
def startLine (label : List UInt8) : List UInt8 :=
  Utf8.encode "-----BEGIN " ++ label ++ Utf8.encode "-----"

/-- The line that ends a section. -/
def endLine (label : List UInt8) : List UInt8 :=
  Utf8.encode "-----END " ++ label ++ Utf8.encode "-----"

/-- A line begins like one that starts a section. -/
def BeginsSection (line : List UInt8) : Prop := Utf8.encode "-----BEGIN " <+: line

instance : DecidablePred BeginsSection :=
  fun line ↦ inferInstanceAs (Decidable (Utf8.encode "-----BEGIN " <+: line))

/-- The hyphens after a label are told from it: it ends with neither a hyphen nor a space. -/
def IsLabel (label : List UInt8) : Prop :=
  ∀ b ∈ label.getLast?, b ≠ hyphen ∧ isLineSpace b = false

instance : DecidablePred IsLabel := fun label ↦ Option.decidableForallMem label.getLast?

section Lines

variable {line label : List UInt8} {b : UInt8}

theorem sectionStart_of_not_begins (h : ¬BeginsSection line) : sectionStart line = .ok none := by
  rw [BeginsSection, ← List.isPrefixOf_iff_prefix] at h
  simp only [sectionStart, dropFirst, h, Bool.false_eq_true, if_false]

theorem trailer_of_isLabel (h : IsLabel label) (hyphens : Nat) :
    trailer hyphens label.reverse label.reverse = (hyphens, label.reverse) := by
  cases hr : label.reverse with
  | nil => rfl
  | cons b rest =>
    have hb : b ∈ label.getLast? := by
      rw [← List.head?_reverse, hr]
      rfl
    obtain ⟨hhyphen, hspace⟩ := h b hb
    rw [trailer, if_neg hhyphen, hspace, if_neg Bool.false_ne_true]

theorem dropFirst_append (start : String) (rest : List UInt8) :
    dropFirst start (Utf8.encode start ++ rest) = some rest := by
  simp only [dropFirst]
  rw [if_pos (List.isPrefixOf_iff_prefix.mpr (List.prefix_append _ _)), List.drop_left]

theorem sectionStart_startLine (h : IsLabel label) :
    sectionStart (startLine label) = .ok (some label) := by
  have hdrop : dropFirst "-----BEGIN " (startLine label) =
      some (label ++ Utf8.encode "-----") := by
    rw [startLine, List.append_assoc, dropFirst_append]
  have htrailer : trailer 0 [] (label ++ Utf8.encode "-----").reverse = (5, label.reverse) := by
    rw [List.reverse_append]
    exact trailer_of_isLabel h 5
  simp only [sectionStart, hdrop, htrailer, List.reverse_reverse]

theorem sectionEnd_eq_false_iff : sectionEnd label line = false ↔ ¬endLine label <+: line := by
  rw [sectionEnd, ← Bool.not_eq_true, List.isPrefixOf_iff_prefix, endLine]

theorem sectionEnd_endLine (label : List UInt8) : sectionEnd label (endLine label) = true :=
  List.isPrefixOf_iff_prefix.mpr (List.prefix_refl _)

/-- The end of a section does not begin like the start of one. -/
theorem not_beginsSection_endLine (label : List UInt8) : ¬BeginsSection (endLine label) := by
  rintro ⟨rest, h⟩
  cases h

end Lines

/-! ## Parts of a file -/

/-- The label of a kind of section. -/
def Kind.label : Kind → String
  | certificate => "CERTIFICATE"
  | publicKey => "PUBLIC KEY"
  | pkcs1Key => "RSA PRIVATE KEY"
  | pkcs8Key => "PRIVATE KEY"
  | sec1Key => "EC PRIVATE KEY"
  | revocationList => "X509 CRL"
  | signingRequest => "CERTIFICATE REQUEST"
  | echConfig => "ECHCONFIG"

theorem Kind.ofLabel?_label (kind : Kind) : ofLabel? (Utf8.encode kind.label) = some kind := by
  cases kind <;> rfl

theorem Kind.isLabel_label (kind : Kind) : IsLabel (Utf8.encode kind.label) := by
  cases kind <;> decide

/-- A part of a file: a line outside of sections, a section whose content is read, or one with
another label. What stands in a section is cut into rows. -/
inductive Part where
  | text (line : List UInt8)
  | data (s : Section) (rows : List (List UInt8))
  | other (label : List UInt8) (rows : List (List UInt8))

namespace Part

/-- The lines of a part. -/
def lines : Part → List (List UInt8)
  | text line => [line]
  | data s rows =>
    let label := Utf8.encode s.kind.label
    startLine label :: rows ++ [endLine label]
  | other label rows => startLine label :: rows ++ [endLine label]

/-- A part as it is written: a line that does not begin a section, the content of a section in
base64, or rows that neither begin a section nor end theirs. -/
def IsWritten : Part → Prop
  | text line => ¬BeginsSection line
  | data s rows => rows.flatten = Base64.encode s.content
  | other label rows => Kind.ofLabel? label = none ∧ IsLabel label ∧
    ∀ row ∈ rows, ¬BeginsSection row ∧ ¬endLine label <+: row

instance : DecidablePred IsWritten
  | text line => inferInstanceAs (Decidable ¬BeginsSection line)
  | data s rows => inferInstanceAs (Decidable (rows.flatten = Base64.encode s.content))
  | other label rows => inferInstanceAs (Decidable (Kind.ofLabel? label = none ∧ IsLabel label ∧
    ∀ row ∈ rows, ¬BeginsSection row ∧ ¬endLine label <+: row))

/-- The section of a part, if its content is read. -/
def section? : Part → Option Section
  | data s _ => some s
  | _ => none

end Part

section Reading

variable {label content : List UInt8} {rows rest : List (List UInt8)}

theorem sectionsFrom_start {line : List UInt8} (h : sectionStart line = .ok (some label))
    (current : Option (List UInt8 × List UInt8)) : sectionsFrom current (line :: rest) =
      sectionsFrom (some (label, (current.map (·.2)).getD [])) rest := by
  simp only [sectionsFrom, h]

theorem sectionsFrom_text {line : List UInt8} (h : sectionStart line = .ok none) :
    sectionsFrom none (line :: rest) = sectionsFrom none rest := by
  simp only [sectionsFrom, h]

theorem sectionsFrom_row {row : List UInt8} (h : sectionStart row = .ok none)
    (hend : sectionEnd label row = false) : sectionsFrom (some (label, content)) (row :: rest) =
      sectionsFrom (some (label, content ++ row)) rest := by
  simp only [sectionsFrom, h, hend, Bool.false_eq_true, if_false]

theorem sectionsFrom_end {line : List UInt8} (h : sectionStart line = .ok none)
    (hend : sectionEnd label line = true) : sectionsFrom (some (label, content)) (line :: rest) =
      match Kind.ofLabel? label with
      | none => sectionsFrom none rest
      | some kind =>
        match decodeContent content with
        | .error fault => .error (.content fault)
        | .ok content => (sectionsFrom none rest).map (⟨kind, content⟩ :: ·) := by
  simp only [sectionsFrom, h]
  exact if_pos hend

/-- What stands in a section is its content. -/
theorem sectionsFrom_rows (h : ∀ row ∈ rows, ¬BeginsSection row ∧ ¬endLine label <+: row) :
    sectionsFrom (some (label, content)) (rows ++ rest) =
      sectionsFrom (some (label, content ++ rows.flatten)) rest := by
  induction rows generalizing content with
  | nil => rw [List.flatten_nil, List.append_nil, List.nil_append]
  | cons row rows ih =>
    obtain ⟨⟨hbegin, hend⟩, hrows⟩ := List.forall_mem_cons.mp h
    rw [List.cons_append, sectionsFrom_row (sectionStart_of_not_begins hbegin)
      (sectionEnd_eq_false_iff.mpr hend), ih hrows, List.flatten_cons, List.append_assoc]

/-- A section is read from its start to its end. -/
theorem sectionsFrom_section (hlabel : IsLabel label)
    (hrows : ∀ row ∈ rows, ¬BeginsSection row ∧ ¬endLine label <+: row) :
    sectionsFrom none (startLine label :: rows ++ [endLine label] ++ rest) =
      match Kind.ofLabel? label with
      | none => sectionsFrom none rest
      | some kind =>
        match decodeContent rows.flatten with
        | .error fault => .error (.content fault)
        | .ok content => (sectionsFrom none rest).map (⟨kind, content⟩ :: ·) := by
  rw [List.append_assoc, List.cons_append, sectionsFrom_start (sectionStart_startLine hlabel),
    sectionsFrom_rows hrows]
  exact sectionsFrom_end (sectionStart_of_not_begins (not_beginsSection_endLine label))
    (sectionEnd_endLine label)

/-- A line of base64 is neither the start nor the end of a section, as it has no hyphen. -/
theorem not_prefix_of_base64 {row : List UInt8}
    (hflat : rows.flatten = Base64.encode content) (hrow : row ∈ rows) :
    ¬BeginsSection row ∧ ¬endLine label <+: row := by
  have hhyphen : hyphen ∉ row := fun hmem ↦
    Base64.forall_mem_encode (P := (· ≠ hyphen)) (by decide) (by decide) content hyphen
      (hflat ▸ List.mem_flatten_of_mem hrow hmem) rfl
  constructor
  · rintro ⟨_, rfl⟩
    exact hhyphen (List.mem_append_left _ List.mem_cons_self)
  · rintro ⟨_, rfl⟩
    exact hhyphen (List.mem_append_left _ List.mem_cons_self)

/-- A part is read as its section, and the reader goes on outside of sections. -/
theorem sectionsFrom_part {p : Part} (h : p.IsWritten) :
    sectionsFrom none (p.lines ++ rest) =
      (sectionsFrom none rest).map (p.section?.toList ++ ·) := by
  cases p with
  | text line =>
    rw [Part.lines, List.singleton_append, sectionsFrom_text (sectionStart_of_not_begins h)]
    cases sectionsFrom none rest <;> rfl
  | data s rows =>
    rw [Part.lines, sectionsFrom_section s.kind.isLabel_label fun row ↦ not_prefix_of_base64 h,
      Kind.ofLabel?_label, show rows.flatten = _ from h, decodeContent_encode]
    rfl
  | other label rows =>
    obtain ⟨hkind, hlabel, hrows⟩ := h
    rw [Part.lines, sectionsFrom_section hlabel hrows, hkind]
    cases sectionsFrom none rest <;> rfl

theorem sectionsFrom_parts {parts : List Part} (h : ∀ p ∈ parts, p.IsWritten) :
    sectionsFrom none (parts.flatMap Part.lines) = .ok (parts.filterMap Part.section?) := by
  induction parts with
  | nil => rfl
  | cons p parts ih =>
    obtain ⟨hp, hparts⟩ := List.forall_mem_cons.mp h
    rw [List.flatMap_cons, sectionsFrom_part hp, ih hparts, List.filterMap_cons]
    cases p.section? <;> rfl

end Reading

/-! ## Ends of lines -/

/-- Bytes are some lines, each followed by a line feed, a carriage return or both; the last one may
do without an end. -/
inductive HasLines : List UInt8 → List (List UInt8) → Prop
  | nil : HasLines [] []
  | last {line : List UInt8} (h : 10 ∉ line ∧ 13 ∉ line) : HasLines line [line]
  | cons {line lineEnd rest : List UInt8} {ls : List (List UInt8)} (h : 10 ∉ line ∧ 13 ∉ line)
    (he : lineEnd ∈ [[10], [13], [13, 10]]) (hr : HasLines rest ls) :
    HasLines (line ++ lineEnd ++ rest) (line :: ls)

/-- Lines that all end alike. -/
theorem hasLines_of_lineEnd {lineEnd : List UInt8} (he : lineEnd ∈ [[10], [13], [13, 10]])
    {ls : List (List UInt8)} (h : ∀ line ∈ ls, 10 ∉ line ∧ 13 ∉ line) :
    HasLines (ls.flatMap (· ++ lineEnd)) ls := by
  induction ls with
  | nil => exact .nil
  | cons line ls ih =>
    obtain ⟨hline, hls⟩ := List.forall_mem_cons.mp h
    exact .cons hline he (ih hls)

theorem linesFrom_append {chunk : List UInt8} (h : 10 ∉ chunk ∧ 13 ∉ chunk)
    (line rest : List UInt8) :
    linesFrom line (chunk ++ rest) = linesFrom (chunk.reverse ++ line) rest := by
  induction chunk generalizing line with
  | nil => rfl
  | cons b chunk ih =>
    simp only [List.mem_cons, not_or] at h
    obtain ⟨⟨hfeed, hfeeds⟩, hreturn, hreturns⟩ := h
    rw [List.cons_append, linesFrom, if_neg (by rintro (rfl | rfl) <;> contradiction),
      ih ⟨hfeeds, hreturns⟩, List.reverse_cons, List.append_assoc, List.singleton_append]

/-- A line goes up to its end. -/
theorem lines_append {line : List UInt8} (h : 10 ∉ line ∧ 13 ∉ line) {b : UInt8}
    (hb : b = 10 ∨ b = 13) (rest : List UInt8) :
    lines (line ++ b :: rest) = (line ++ [b]) :: lines rest := by
  rw [lines, linesFrom_append h, List.append_nil, linesFrom, if_pos hb, List.reverse_cons,
    List.reverse_reverse, lines]

theorem prefix_concat_iff_of_getLast? {start line : List UInt8} {b : UInt8}
    (h : start.getLast? ≠ some b) : start <+: line ++ [b] ↔ start <+: line := by
  rw [List.prefix_concat_iff, or_iff_right]
  rintro rfl
  exact h (List.getLast?_concat)

section LineEnds

variable {line label : List UInt8} {b : UInt8}

/-- The end of a line does not count when the line starts a section. -/
theorem sectionStart_concat (hb : b = 10 ∨ b = 13) {start : Option (List UInt8)}
    (h : sectionStart line = .ok start) : sectionStart (line ++ [b]) = .ok start := by
  by_cases hbegin : BeginsSection line
  · obtain ⟨rest, rfl⟩ := hbegin
    have htrailer : trailer 0 [] (rest ++ [b]).reverse = trailer 0 [] rest.reverse := by
      rw [List.reverse_concat, trailer]
      rcases hb with rfl | rfl <;> rfl
    rw [sectionStart, dropFirst_append] at h
    rw [List.append_assoc, sectionStart, dropFirst_append]
    simp only [htrailer] at h ⊢
    split at h
    · exact h
    · cases h
  · have hconcat : ¬BeginsSection (line ++ [b]) := by
      rwa [BeginsSection, prefix_concat_iff_of_getLast? (by rcases hb with rfl | rfl <;> decide)]
    rw [sectionStart_of_not_begins hconcat, ← h, sectionStart_of_not_begins hbegin]

theorem sectionEnd_concat (hb : b = 10 ∨ b = 13) (label line : List UInt8) :
    sectionEnd label (line ++ [b]) = sectionEnd label line := by
  have hlast : (endLine label).getLast? ≠ some b := by
    rw [endLine, List.getLast?_append, show (Utf8.encode "-----").getLast? = some hyphen from rfl,
      Option.some_or]
    rcases hb with rfl | rfl <;> decide
  rw [Bool.eq_iff_iff, sectionEnd, sectionEnd, List.isPrefixOf_iff_prefix,
    List.isPrefixOf_iff_prefix]
  exact prefix_concat_iff_of_getLast? hlast

end LineEnds

/-- A line is read like another: it starts and ends the same sections and has the same content. -/
structure LineAlike (line line' : List UInt8) : Prop where
  start {start} : sectionStart line' = .ok start → sectionStart line = .ok start
  stop (label : List UInt8) : sectionEnd label line = sectionEnd label line'
  content : line.filter (!isContentSpace ·) = line'.filter (!isContentSpace ·)

theorem LineAlike.refl (line : List UInt8) : LineAlike line line := ⟨id, fun _ ↦ rfl, rfl⟩

theorem LineAlike.concat {b : UInt8} (hb : b = 10 ∨ b = 13) (line : List UInt8) :
    LineAlike (line ++ [b]) line where
  start := sectionStart_concat hb
  stop label := sectionEnd_concat hb label line
  content := by
    have hspace : isContentSpace b = true := by rcases hb with rfl | rfl <;> rfl
    simp [List.filter_append, hspace]

/-- Two sections are open alike: none, or with one label and contents that differ only in spaces. -/
inductive OpenAlike : (o o' : Option (List UInt8 × List UInt8)) → Prop
  | closed : OpenAlike none none
  | opened (label : List UInt8) {content content' : List UInt8}
    (h : content.filter (!isContentSpace ·) = content'.filter (!isContentSpace ·)) :
    OpenAlike (some (label, content)) (some (label, content'))

/-- Whatever sections are read from some lines are read from others, also if sections are open
alike. -/
def ReadAlike (ls ls' : List (List UInt8)) : Prop :=
  ∀ o o' read, OpenAlike o o' → sectionsFrom o' ls' = .ok read → sectionsFrom o ls = .ok read

section Alike

variable {line line' : List UInt8} {rest rest' : List (List UInt8)}

theorem ReadAlike.nil : ReadAlike [] [] := by
  intro o o' read halike h
  cases halike with
  | closed => exact h
  | opened => cases h

theorem ReadAlike.cons (hline : LineAlike line line') (hrest : ReadAlike rest rest') :
    ReadAlike (line :: rest) (line' :: rest') := by
  intro o o' read halike h
  cases hstart : sectionStart line' with
  | error fault =>
    simp only [sectionsFrom, hstart] at h
    cases h
  | ok start =>
    cases start with
    | some label =>
      rw [sectionsFrom_start hstart] at h
      rw [sectionsFrom_start (hline.start hstart)]
      refine hrest _ _ _ (.opened label ?_) h
      cases halike with
      | closed => rfl
      | opened _ hc => exact hc
    | none =>
      cases halike with
      | closed =>
        rw [sectionsFrom_text hstart] at h
        rw [sectionsFrom_text (hline.start hstart)]
        exact hrest _ _ _ .closed h
      | @opened label content content' hc =>
        cases hend : sectionEnd label line' with
        | false =>
          rw [sectionsFrom_row hstart hend] at h
          rw [sectionsFrom_row (hline.start hstart) ((hline.stop label).trans hend)]
          refine hrest _ _ _ (.opened label ?_) h
          rw [List.filter_append, List.filter_append, hc, hline.content]
        | true =>
          -- The contents may differ, but only in what decoding leaves out.
          have hdecode : decodeContent content = decodeContent content' := by
            rw [decodeContent, hc, decodeContent]
          rw [sectionsFrom_end hstart hend] at h
          rw [sectionsFrom_end (hline.start hstart) ((hline.stop label).trans hend), hdecode]
          cases hkind : Kind.ofLabel? label with
          | none =>
            simp only [hkind] at h ⊢
            exact hrest _ _ _ .closed h
          | some kind =>
            simp only [hkind] at h ⊢
            cases hcontent : decodeContent content' with
            | error fault =>
              simp only [hcontent] at h
              cases h
            | ok content =>
              simp only [hcontent] at h ⊢
              cases hlater : sectionsFrom none rest' with
              | error fault =>
                rw [hlater] at h
                cases h
              | ok later => rw [hrest _ _ _ .closed hlater, ← h, hlater]

/-- An empty line does not count. -/
theorem ReadAlike.blank_right (hrest : ReadAlike rest rest') : ReadAlike rest ([] :: rest') := by
  intro o o' read halike h
  have hstart : sectionStart [] = .ok none := rfl
  cases halike with
  | closed => exact hrest _ _ _ .closed ((sectionsFrom_text hstart).symm.trans h)
  | @opened label content content' hc =>
    rw [sectionsFrom_row hstart rfl, List.append_nil] at h
    exact hrest _ _ _ (.opened label hc) h

/-- A line feed alone is read like the end of the line before. -/
theorem ReadAlike.feed_left (hrest : ReadAlike rest rest') : ReadAlike ([10] :: rest) rest' := by
  intro o o' read halike h
  have hstart : sectionStart [10] = .ok none := rfl
  cases halike with
  | closed => exact (sectionsFrom_text hstart).trans (hrest _ _ _ .closed h)
  | @opened label content content' hc =>
    rw [sectionsFrom_row hstart rfl]
    refine hrest _ _ _ (.opened label ?_) h
    rw [List.filter_append, hc]
    exact List.append_nil _

/-- A text is read like its lines without their ends. -/
theorem readAlike_of_hasLines {bytes : List UInt8} {ls : List (List UInt8)}
    (h : HasLines bytes ls) : ReadAlike (lines bytes) ls := by
  induction h with
  | nil => exact .nil
  | @last line hline =>
    have hlines : lines line = if line.isEmpty then [] else [line] := by
      have happend := linesFrom_append hline [] []
      rw [List.append_nil, List.append_nil] at happend
      rw [lines, happend, linesFrom, List.isEmpty_reverse, List.reverse_reverse]
    rw [hlines]
    split
    next hempty =>
      -- A last line that is empty and has no end is not a line of the text.
      rw [List.isEmpty_iff.mp hempty]
      exact .blank_right .nil
    next => exact .cons (.refl line) .nil
  | @cons line lineEnd rest ls hline hend _ ih =>
    simp only [List.mem_cons, List.not_mem_nil, or_false] at hend
    rw [List.append_assoc]
    rcases hend with rfl | rfl | rfl
    · rw [List.singleton_append, lines_append hline (.inl rfl)]
      exact .cons (.concat (.inl rfl) line) ih
    · rw [List.singleton_append, lines_append hline (.inr rfl)]
      exact .cons (.concat (.inr rfl) line) ih
    · have hfeed : lines (10 :: rest) = [10] :: lines rest :=
        lines_append ⟨List.not_mem_nil, List.not_mem_nil⟩ (.inl rfl) rest
      rw [List.cons_append, List.singleton_append, lines_append hline (.inr rfl), hfeed]
      exact .cons (.concat (.inr rfl) line) (.feed_left ih)

end Alike

/-- A file of written parts is read as the sections of its parts, in order. -/
theorem sections_of_parts {parts : List Part} {bytes : List UInt8}
    (hparts : ∀ p ∈ parts, p.IsWritten) (h : HasLines bytes (parts.flatMap Part.lines)) :
    sections bytes = .ok (parts.filterMap Part.section?) :=
  readAlike_of_hasLines h _ _ _ .closed (sectionsFrom_parts hparts)

end ProxySettings.Pem
