import ProxySettings.Proofs.LoadedStore
import ProxySettings.Proofs.PathWalk
import ProxySettings.Proofs.PemText

/-!
# What is loaded from a certificate file

A certificate file is read section by section, once for its certificates and once for its key.
Both readings stop at the first fault, and the second one also at the first key: it never gets to a
fault that the first one has not met. What a file is loaded as is what its sections were written
for.
-/

namespace ProxySettings

namespace Pem

/-! ## Reading section by section -/

/-- The next section of some lines, and the lines after it; none if no section is left. -/
def nextFrom (current : Option (List UInt8 × List UInt8)) :
    List (List UInt8) → Except Fault (Option (Section × List (List UInt8)))
  | [] =>
    match current with
    | some (label, _) => .error (.missingEnd label)
    | none => .ok none
  | line :: rest =>
    match sectionStart line, current with
    | .error fault, _ => .error fault
    | .ok (some label), current => nextFrom (some (label, (current.map (·.2)).getD [])) rest
    | .ok none, none => nextFrom none rest
    | .ok none, some (label, content) =>
      if sectionEnd label line then
        match Kind.ofLabel? label with
        | none => nextFrom none rest
        | some kind =>
          match decodeContent content with
          | .error fault => .error (.content fault)
          | .ok content => .ok (some (⟨kind, content⟩, rest))
      else nextFrom (some (label, content ++ line)) rest

/-- The next section outside of sections. -/
def next (ls : List (List UInt8)) : Except Fault (Option (Section × List (List UInt8))) :=
  nextFrom none ls

/-- The sections of some lines are the next one and those of the lines after it. -/
theorem sectionsFrom_eq_nextFrom (current : Option (List UInt8 × List UInt8))
    (ls : List (List UInt8)) : sectionsFrom current ls =
      match nextFrom current ls with
      | .error fault => .error fault
      | .ok none => .ok []
      | .ok (some (s, rest)) => (sectionsFrom none rest).map (s :: ·) := by
  induction ls generalizing current with
  | nil => cases current <;> rfl
  | cons line rest ih =>
    cases hstart : sectionStart line with
    | error fault => simp only [sectionsFrom, nextFrom, hstart]
    | ok start =>
      cases start with
      | some label => simp only [sectionsFrom, nextFrom, hstart, ih]
      | none =>
        cases current with
        | none => simp only [sectionsFrom, nextFrom, hstart, ih]
        | some opened =>
          obtain ⟨label, content⟩ := opened
          simp only [sectionsFrom, nextFrom, hstart]
          split
          · cases hkind : Kind.ofLabel? label with
            | none => simp only [ih]
            | some kind => cases decodeContent content <;> rfl
          · exact ih _

/-- Reading a section uses up its lines. -/
theorem length_lt_of_nextFrom {current : Option (List UInt8 × List UInt8)}
    {ls rest : List (List UInt8)} {s : Section}
    (h : nextFrom current ls = .ok (some (s, rest))) : rest.length < ls.length := by
  induction ls generalizing current with
  | nil =>
    cases current <;> cases h
  | cons line ls ih =>
    rw [List.length_cons]
    cases hstart : sectionStart line with
    | error fault => simp only [nextFrom, hstart, reduceCtorEq] at h
    | ok start =>
      cases start with
      | some label =>
        simp only [nextFrom, hstart] at h
        exact Nat.lt_succ_of_lt (ih h)
      | none =>
        cases current with
        | none =>
          simp only [nextFrom, hstart] at h
          exact Nat.lt_succ_of_lt (ih h)
        | some opened =>
          obtain ⟨label, content⟩ := opened
          simp only [nextFrom, hstart] at h
          split at h
          · split at h
            · exact Nat.lt_succ_of_lt (ih h)
            · split at h
              · cases h
              · cases h
                exact Nat.lt_succ_self _
          · exact Nat.lt_succ_of_lt (ih h)

/-- Sections that are read from the first of some lines on, one after the other. -/
inductive Reads : List (List UInt8) → List Section → List (List UInt8) → Prop
  | none (ls : List (List UInt8)) : Reads ls [] ls
  | more {ls mid rest : List (List UInt8)} {s : Section} {ss : List Section}
    (h : next ls = .ok (some (s, mid))) (hr : Reads mid ss rest) : Reads ls (s :: ss) rest

section Reads

variable {ls rest : List (List UInt8)} {ss : List Section} {fault : Fault}

theorem sectionsFrom_of_next {s : Section} (h : next ls = .ok (some (s, rest))) :
    sectionsFrom none ls = (sectionsFrom none rest).map (s :: ·) := by
  rw [sectionsFrom_eq_nextFrom, ← next, h]

theorem sectionsFrom_of_reads (h : Reads ls ss rest) :
    sectionsFrom none ls = (sectionsFrom none rest).map (ss ++ ·) := by
  induction h with
  | none ls => cases sectionsFrom none ls <;> rfl
  | @more ls mid rest s ss hnext _ ih =>
    rw [sectionsFrom_of_next hnext, ih]
    cases sectionsFrom none rest <;> rfl

/-- The reader comes to the end or to a fault. -/
theorem exists_reads (ls : List (List UInt8)) : ∃ ss rest, Reads ls ss rest ∧
    (next rest = .ok none ∨ ∃ fault, next rest = .error fault) := by
  induction hlen : ls.length using Nat.strongRecOn generalizing ls with
  | ind n ih =>
    cases hnext : next ls with
    | error fault => exact ⟨[], ls, .none ls, .inr ⟨fault, hnext⟩⟩
    | ok found =>
      cases found with
      | none => exact ⟨[], ls, .none ls, .inl hnext⟩
      | some found =>
        obtain ⟨s, mid⟩ := found
        obtain ⟨ss, rest, hreads, hend⟩ :=
          ih mid.length (hlen ▸ length_lt_of_nextFrom hnext) mid rfl
        exact ⟨s :: ss, rest, .more hnext hreads, hend⟩

theorem sectionsFrom_of_end (h : next ls = .ok none) : sectionsFrom none ls = .ok [] := by
  rw [sectionsFrom_eq_nextFrom, ← next, h]

theorem sectionsFrom_of_fault (h : next ls = .error fault) :
    sectionsFrom none ls = .error fault := by
  rw [sectionsFrom_eq_nextFrom, ← next, h]

/-- The sections are those that are read up to the end. -/
theorem sectionsFrom_eq_ok_iff : sectionsFrom none ls = .ok ss ↔
    ∃ rest, Reads ls ss rest ∧ next rest = .ok none := by
  constructor
  · intro h
    obtain ⟨read, rest, hreads, hend | ⟨fault, hfault⟩⟩ := exists_reads ls
    · rw [sectionsFrom_of_reads hreads, sectionsFrom_of_end hend] at h
      obtain rfl : read ++ [] = ss := Except.ok.inj h
      exact ⟨rest, (List.append_nil read).symm ▸ hreads, hend⟩
    · rw [sectionsFrom_of_reads hreads, sectionsFrom_of_fault hfault] at h
      cases h
  · rintro ⟨rest, hreads, hend⟩
    rw [sectionsFrom_of_reads hreads, sectionsFrom_of_end hend]
    exact congrArg Except.ok (List.append_nil ss)

/-- A fault is that of the section after those that are read. -/
theorem sectionsFrom_eq_error_iff : sectionsFrom none ls = .error fault ↔
    ∃ ss rest, Reads ls ss rest ∧ next rest = .error fault := by
  constructor
  · intro h
    obtain ⟨read, rest, hreads, hend | ⟨found, hfault⟩⟩ := exists_reads ls
    · rw [sectionsFrom_of_reads hreads, sectionsFrom_of_end hend] at h
      cases h
    · rw [sectionsFrom_of_reads hreads, sectionsFrom_of_fault hfault] at h
      obtain rfl : found = fault := Except.error.inj h
      exact ⟨read, rest, hreads, hfault⟩
  · rintro ⟨ss, rest, hreads, hfault⟩
    rw [sectionsFrom_of_reads hreads, sectionsFrom_of_fault hfault]
    rfl

end Reads

end Pem

namespace CertEntry

/-! ## Two passes -/

/-- The certificates of some lines, section by section: the first fault ends the pass. -/
def certificatePass (ls : List (List UInt8)) : Except Pem.Fault (List (List UInt8)) :=
  match _ : Pem.next ls with
  | .error fault => .error fault
  | .ok none => .ok []
  | .ok (some (s, rest)) =>
    let later := certificatePass rest
    if s.kind = .certificate then later.map (s.content :: ·) else later
termination_by ls.length
decreasing_by exact Pem.length_lt_of_nextFrom ‹_›

/-- The first private key of some lines, section by section: it ends the pass, and so does a fault
before it. -/
def keyPass (ls : List (List UInt8)) : Except Pem.Fault (Option PrivateKey) :=
  match _ : Pem.next ls with
  | .error fault => .error fault
  | .ok none => .ok none
  | .ok (some (s, rest)) =>
    match KeyKind.ofSection? s.kind with
    | some kind => .ok (some ⟨kind, s.content⟩)
    | none => keyPass rest
termination_by ls.length
decreasing_by exact Pem.length_lt_of_nextFrom ‹_›

section Passes

variable {ls : List (List UInt8)} {ss : List Pem.Section}

/-- The first pass goes through all sections. -/
theorem certificatePass_eq (ls : List (List UInt8)) :
    certificatePass ls = (Pem.sectionsFrom none ls).map certificates := by
  fun_induction certificatePass ls with
  | case1 ls fault h => rw [Pem.sectionsFrom_of_fault h]; rfl
  | case2 ls h => rw [Pem.sectionsFrom_of_end h]; rfl
  | case3 ls s rest h later hkind ih =>
    simp only [later, ih, Pem.sectionsFrom_of_next h]
    cases Pem.sectionsFrom none rest with
    | error fault => rfl
    | ok ss => simp only [Except.map, certificates, List.filterMap_cons, hkind, if_true]
  | case4 ls s rest h later hkind ih =>
    simp only [later, ih, Pem.sectionsFrom_of_next h]
    cases Pem.sectionsFrom none rest with
    | error fault => rfl
    | ok ss => simp only [Except.map, certificates, List.filterMap_cons, hkind, if_false]

/-- If all sections can be read, the second pass finds the first key. -/
theorem keyPass_of_ok (h : Pem.sectionsFrom none ls = .ok ss) :
    keyPass ls = .ok (privateKey? ss) := by
  fun_induction keyPass ls generalizing ss with
  | case1 ls fault hnext =>
    rw [Pem.sectionsFrom_of_fault hnext] at h
    cases h
  | case2 ls hnext =>
    rw [Pem.sectionsFrom_of_end hnext] at h
    cases h
    rfl
  | case3 ls s rest hnext kind hkind =>
    rw [Pem.sectionsFrom_of_next hnext] at h
    cases hrest : Pem.sectionsFrom none rest with
    | error fault =>
      rw [hrest] at h
      cases h
    | ok later =>
      rw [hrest] at h
      cases h
      simp only [privateKey?, List.findSome?_cons, hkind, Option.map_some]
  | case4 ls s rest hnext hkind ih =>
    rw [Pem.sectionsFrom_of_next hnext] at h
    cases hrest : Pem.sectionsFrom none rest with
    | error fault =>
      rw [hrest] at h
      cases h
    | ok later =>
      rw [hrest] at h
      cases h
      simp only [privateKey?, List.findSome?_cons, hkind, Option.map_none]
      exact ih hrest

end Passes

/-- The lines of a file that is opened and read. -/
def linesOf (w : World) (path : String) : Except ConfigError (List (List UInt8)) :=
  match w.read path with
  | .error fault => .error (.io fault)
  | .ok (.error fault) => .error (.certificate path (.unreadable fault))
  | .ok (.ok bytes) => .ok (Pem.lines bytes)

/-- Load the entry of a file in two passes, each of which opens the file. -/
def loadInPasses (w : World) (domain path : String) : Except ConfigError CertEntry := do
  let chain ← (certificatePass (← linesOf w path)).mapError (.certificate path)
  match chain with
  | [] => .error (.certificate path .noCertificate)
  | leaf :: issuers =>
    let key ← (keyPass (← linesOf w path)).mapError (.certificate path)
    return ⟨Text.asciiLower domain, path, leaf, issuers, key⟩

/-- Loading is the two passes. -/
theorem load_eq_loadInPasses (w : World) (domain path : String) :
    load w domain path = loadInPasses w domain path := by
  rw [load, loadInPasses]
  rcases hread : w.read path with fault | fault | bytes
  · simp only [linesOf, hread]
    rfl
  · simp only [linesOf, hread]
    rfl
  · have hlines : linesOf w path = .ok (Pem.lines bytes) := by rw [linesOf, hread]
    simp only [hlines, ofPem, Pem.sections, bind, Except.bind]
    cases hs : Pem.sectionsFrom none (Pem.lines bytes) with
    | error fault =>
      have hpass : certificatePass (Pem.lines bytes) = .error fault := by
        rw [certificatePass_eq, hs]
        rfl
      rw [hpass]
      rfl
    | ok ss =>
      have hpass : certificatePass (Pem.lines bytes) = .ok (certificates ss) := by
        rw [certificatePass_eq, hs]
        rfl
      simp only [hpass, keyPass_of_ok hs, Except.mapError]
      cases certificates ss <;> rfl

/-! ## Files that were written -/

/-- The certificate that a part holds. -/
def certificateOf? : Pem.Part → Option (List UInt8)
  | .data ⟨.certificate, content⟩ _ => some content
  | _ => none

/-- The private key that a part holds, in the encoding that its label names. -/
def keyOf? : Pem.Part → Option PrivateKey
  | .data ⟨.pkcs1Key, content⟩ _ => some ⟨.pkcs1, content⟩
  | .data ⟨.sec1Key, content⟩ _ => some ⟨.sec1, content⟩
  | .data ⟨.pkcs8Key, content⟩ _ => some ⟨.pkcs8, content⟩
  | _ => none

theorem certificates_of_parts (parts : List Pem.Part) :
    certificates (parts.filterMap Pem.Part.section?) = parts.filterMap certificateOf? := by
  rw [certificates, List.filterMap_filterMap]
  congr 1
  funext p
  rcases p with line | ⟨⟨kind, content⟩, rows⟩ | ⟨label, rows⟩
  · rfl
  · cases kind <;> rfl
  · rfl

theorem privateKey?_of_parts (parts : List Pem.Part) :
    privateKey? (parts.filterMap Pem.Part.section?) = parts.findSome? keyOf? := by
  induction parts with
  | nil => rfl
  | cons p parts ih =>
    have hp : p.section?.bind (fun s ↦ (KeyKind.ofSection? s.kind).map (⟨·, s.content⟩)) =
        keyOf? p := by
      rcases p with line | ⟨⟨kind, content⟩, rows⟩ | ⟨label, rows⟩
      · rfl
      · cases kind <;> rfl
      · rfl
    rw [List.findSome?_cons, ← hp, ← ih, List.filterMap_cons]
    cases p.section? with
    | none => rfl
    | some s => simp only [privateKey?, List.findSome?_cons, Option.bind_some]

variable {w : World} {domain path : String} {bytes : List UInt8}

theorem load_of_read (h : w.read path = .ok (.ok bytes)) :
    load w domain path = (ofPem domain path bytes).mapError (.certificate path) := by
  rw [load, h]

/-- A file whose sections and lines between them were written is loaded as what they were written
for. -/
theorem load_of_parts (h : w.read path = .ok (.ok bytes)) {parts : List Pem.Part}
    (hparts : ∀ p ∈ parts, p.IsWritten) (hlines : Pem.HasLines bytes (parts.flatMap Pem.Part.lines))
    {leaf : List UInt8} {issuers : List (List UInt8)}
    (hchain : parts.filterMap certificateOf? = leaf :: issuers) : load w domain path =
      .ok ⟨Text.asciiLower domain, path, leaf, issuers, parts.findSome? keyOf?⟩ := by
  rw [load_of_read h, ofPem, Pem.sections_of_parts hparts hlines]
  simp only [certificates_of_parts, hchain, privateKey?_of_parts]
  rfl

/-- Loading a readable file fails for the first fault of its sections, or for want of a
certificate. -/
theorem load_eq_error_iff_of_read (h : w.read path = .ok (.ok bytes)) {e : ConfigError} :
    load w domain path = .error e ↔ ∃ fault, e = .certificate path fault ∧
      ((∃ ss rest, Pem.Reads (Pem.lines bytes) ss rest ∧ Pem.next rest = .error fault) ∨
        fault = .noCertificate ∧ ∃ ss rest, Pem.Reads (Pem.lines bytes) ss rest ∧
          Pem.next rest = .ok none ∧ ∀ s ∈ ss, s.kind ≠ .certificate) := by
  have hnone (ss : List Pem.Section) :
      certificates ss = [] ↔ ∀ s ∈ ss, s.kind ≠ .certificate := by
    simp [certificates]
  rw [load_of_read h, ofPem, Pem.sections]
  cases hs : Pem.sectionsFrom none (Pem.lines bytes) with
  | error fault =>
    constructor
    · rintro ⟨⟩
      exact ⟨fault, rfl, .inl (Pem.sectionsFrom_eq_error_iff.mp hs)⟩
    · rintro ⟨found, rfl, hfound | ⟨-, ss, rest, hreads, hend, -⟩⟩
      · cases hs.symm.trans (Pem.sectionsFrom_eq_error_iff.mpr hfound)
        rfl
      · cases hs.symm.trans (Pem.sectionsFrom_eq_ok_iff.mpr ⟨rest, hreads, hend⟩)
  | ok ss =>
    constructor
    · intro herror
      cases hc : certificates ss with
      | cons leaf issuers =>
        simp only [hc] at herror
        cases herror
      | nil =>
        simp only [hc] at herror
        cases herror
        obtain ⟨rest, hreads, hend⟩ := Pem.sectionsFrom_eq_ok_iff.mp hs
        exact ⟨_, rfl, .inr ⟨rfl, ss, rest, hreads, hend, (hnone ss).mp hc⟩⟩
    · rintro ⟨found, rfl, hfound | ⟨rfl, ss, rest, hreads, hend, hkinds⟩⟩
      · cases hs.symm.trans (Pem.sectionsFrom_eq_error_iff.mpr hfound)
      · cases hs.symm.trans (Pem.sectionsFrom_eq_ok_iff.mpr ⟨rest, hreads, hend⟩)
        simp only [(hnone ss).mpr hkinds]
        rfl

/-- A file is loaded as what it was written for: its certificates in order, the leaf first, and the
first of its private keys, whatever other sections and lines stand between them. Any other readable
file is loaded unless one of its sections has a fault, wherever it stands, or none is a certificate.
The file is read once for certificates and once for a key, and after the first pass the second one
does not fail. -/
theorem load_recovers_file (h : w.read path = .ok (.ok bytes)) :
    (∀ parts : List Pem.Part, (∀ p ∈ parts, p.IsWritten) →
      Pem.HasLines bytes (parts.flatMap Pem.Part.lines) →
      parts.filterMap certificateOf? ≠ [] → ∃ e, load w domain path = .ok e ∧
        e.domain = Text.asciiLower domain ∧ e.path = path ∧
        e.chain = parts.filterMap certificateOf? ∧ e.chain.head? = some e.leaf ∧
        e.key = parts.findSome? keyOf? ∧ (e.key = none ↔ ∀ p ∈ parts, keyOf? p = none)) ∧
      (∀ e, load w domain path = .error e ↔ ∃ fault, e = .certificate path fault ∧
        ((∃ ss rest, Pem.Reads (Pem.lines bytes) ss rest ∧ Pem.next rest = .error fault) ∨
          fault = .noCertificate ∧ ∃ ss rest, Pem.Reads (Pem.lines bytes) ss rest ∧
            Pem.next rest = .ok none ∧ ∀ s ∈ ss, s.kind ≠ .certificate)) ∧
      load w domain path = loadInPasses w domain path ∧
      ∀ chain, certificatePass (Pem.lines bytes) = .ok chain →
        ∃ key, keyPass (Pem.lines bytes) = .ok key := by
  refine ⟨fun parts hparts hlines hne ↦ ?_, fun e ↦ load_eq_error_iff_of_read h,
    load_eq_loadInPasses w domain path, fun chain hchain ↦ ?_⟩
  · obtain ⟨leaf, issuers, hchain⟩ := List.exists_cons_of_ne_nil hne
    refine ⟨_, load_of_parts h hparts hlines hchain, rfl, rfl, hchain.symm, rfl, rfl, ?_⟩
    exact List.findSome?_eq_none_iff
  · rw [certificatePass_eq] at hchain
    cases hs : Pem.sectionsFrom none (Pem.lines bytes) with
    | error fault =>
      rw [hs] at hchain
      cases hchain
    | ok ss => exact ⟨_, keyPass_of_ok hs⟩

/-- Two certificates and a key, with a line of text, an empty line and another section. -/
def sampleParts : List Pem.Part :=
  [.text (Utf8.encode "subject=CN = a.test"),
    .data ⟨.certificate, [48, 3, 2, 1, 5]⟩ [Utf8.encode "MAMC", Utf8.encode "AQU="],
    .other (Utf8.encode "EC PARAMETERS") [Utf8.encode "BggqhkjOPQMBBw=="],
    .data ⟨.sec1Key, [48, 1]⟩ [Utf8.encode "MAE="], .text [],
    .data ⟨.certificate, [48, 0]⟩ [Utf8.encode "MAA="]]

/-- The lines of these parts, each with both characters at its end. -/
def sampleBytes : List UInt8 :=
  (sampleParts.flatMap Pem.Part.lines).flatMap (· ++ [13, 10])

/-- A root directory with the file of these parts. -/
def sampleWorld : World := ⟨[(["c.pem"], .file sampleBytes)], .ok "/", some "/", []⟩

/-- The key stands between the certificates, and the parameters before it do not count. -/
theorem load_recovers_file_sample : ∃ e, load sampleWorld "A.test" "/c.pem" = .ok e ∧
    e.domain = "a.test" ∧ e.chain = [[48, 3, 2, 1, 5], [48, 0]] ∧
    e.key = some ⟨.sec1, [48, 1]⟩ := by
  have hread : sampleWorld.read "/c.pem" = .ok (.ok sampleBytes) := by
    rw [World.read, World.find_file_of_root ⟨rfl, rfl, by decide⟩ rfl (by decide) rfl]
  have hwritten : ∀ p ∈ sampleParts, p.IsWritten := by decide
  have hlines : Pem.HasLines sampleBytes (sampleParts.flatMap Pem.Part.lines) :=
    Pem.hasLines_of_lineEnd (by decide) (by decide)
  obtain ⟨e, hload, hdomain, -, hchain, -, hkey, -⟩ :=
    (@load_recovers_file _ "A.test" _ _ hread).1 sampleParts hwritten hlines (by decide)
  exact ⟨e, hload, hdomain.trans (by decide), hchain, hkey⟩

end CertEntry

end ProxySettings
