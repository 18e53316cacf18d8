import ProxySettings.Proofs.DomainPattern
import ProxySettings.Proofs.LoadedStore
import ProxySettings.Proofs.PathWalk

/-!
# The entry that serves a domain

A store is opened and then changed in steps, of which any may end in a refusal. What it holds is
what was added, in order. A domain is served by the entry whose pattern is the narrowest that covers
it, and of entries with that pattern by the one that was added first.
-/

namespace ProxySettings.CertStore

/-! ## Steps -/

/-- A change of a store: the file of one domain, or the files of specifications. The world may be
another one at every step. -/
inductive Step where
  | file (w : World) (domain path : String)
  | specs (w : World) (given : List CertSpec)

/-- The patterns and entries of files, up to the first that cannot be loaded. -/
def loaded (w : World) : List CertSpec → List (String × CertEntry)
  | [] => []
  | spec :: specs =>
    match CertEntry.load w spec.domain spec.path with
    | .error _ => []
    | .ok entry => (spec.domain, entry) :: loaded w specs

/-- The store after a step, also after one that ends in a refusal. -/
def Step.apply (s : CertStore) : Step → CertStore
  | file w domain path => (s.add w domain path).store
  | specs w given => (s.addAll w given).store

/-- The patterns that a step adds, as they were given, with their entries. -/
def Step.added : Step → List (String × CertEntry)
  | file w domain path => loaded w [⟨domain, path⟩]
  | specs w given => loaded w given

/-- A store holds what was added, in order, with the patterns in lower case. -/
structure Records (s : CertStore) (added : List (String × CertEntry)) : Prop where
  entries_eq : s.entries = added.map (·.2)
  domain_eq : ∀ a ∈ added, a.2.domain = Text.asciiLower a.1

/-- A store that was opened holds nothing. -/
theorem records_ofDir {w : World} {cadir basename : String} {s : CertStore}
    (h : (ofDir w cadir basename).result = .ok s) : Records s [] :=
  ⟨(of_ofDir h).2.2.1, fun _ ha ↦ absurd ha List.not_mem_nil⟩

/-- Adding files keeps the record, up to the first that cannot be loaded. -/
theorem records_addAll {s : CertStore} {added : List (String × CertEntry)} (h : Records s added)
    (w : World) (specs : List CertSpec) :
    Records (s.addAll w specs).store (added ++ loaded w specs) := by
  induction specs generalizing s added with
  | nil =>
    rw [loaded, List.append_nil]
    exact h
  | cons spec specs ih =>
    rw [addAll, loaded]
    cases hl : CertEntry.load w spec.domain spec.path with
    | error e =>
      rw [List.append_nil]
      exact h
    | ok entry =>
      rw [List.append_cons]
      refine ih ⟨?_, fun a ha ↦ ?_⟩
      · rw [List.map_append, ← h.entries_eq]
        rfl
      · rcases List.mem_append.mp ha with ha | ha
        · exact h.domain_eq a ha
        · obtain rfl := List.mem_singleton.mp ha
          exact (CertEntry.load_eq_ok_iff.mp hl).domain_eq

/-- Every step keeps the record. -/
theorem records_step {s : CertStore} {added : List (String × CertEntry)} (h : Records s added)
    (step : Step) : Records (step.apply s) (added ++ step.added) := by
  cases step with
  | file w domain path => exact records_addAll h w [⟨domain, path⟩]
  | specs w given => exact records_addAll h w given

/-- After any steps a store holds what all of them added. -/
theorem records_run {s : CertStore} {added : List (String × CertEntry)} (h : Records s added)
    (steps : List Step) :
    Records (steps.foldl Step.apply s) (added ++ steps.flatMap Step.added) := by
  induction steps generalizing s added with
  | nil =>
    rw [List.flatMap_nil, List.append_nil]
    exact h
  | cons step steps ih =>
    rw [List.foldl_cons, List.flatMap_cons, ← List.append_assoc]
    exact ih (records_step h step)

/-! ## The serving entry -/

/-- Of what was added, the first with the first form of a domain that any has. -/
def serving? (added : List (String × CertEntry)) (domain : String) : Option (String × CertEntry) :=
  (lookupForms (Text.asciiLower domain)).findSome? fun form ↦
    added.find? fun a ↦ Text.asciiLower a.1 == form

/-- Looking up finds the entry among what was added. -/
theorem get?_of_records {s : CertStore} {added : List (String × CertEntry)} (h : Records s added)
    (domain : String) : s.get? domain = (serving? added domain).map (·.2) := by
  have hf (form : String) : s.entries.find? (·.domain == form) =
      (added.find? fun a ↦ Text.asciiLower a.1 == form).map (·.2) := by
    rw [h.entries_eq, List.find?_map, ← List.head?_filter, ← List.head?_filter]
    rw [List.filter_congr fun a ha ↦ ?_]
    rw [Function.comp_apply, h.domain_eq a ha]
  rw [get?, serving?, List.map_findSome?]
  simp only [hf]
  rfl

/-- Nothing serves exactly the domains that no pattern covers. -/
theorem serving?_eq_none_iff {added : List (String × CertEntry)} {domain : String} :
    serving? added domain = none ↔
      ∀ a ∈ added, ¬Covers (Text.asciiLower a.1) (Text.asciiLower domain) := by
  simp only [serving?, List.findSome?_eq_none_iff, List.find?_eq_none, ← mem_lookupForms_iff,
    beq_iff_eq]
  constructor
  · intro h a ha hc
    exact h _ hc a ha rfl
  · rintro h form hf a ha rfl
    exact h a ha hf

/-- What serves a domain has the narrowest pattern that covers it, and comes first with it. -/
theorem serving?_eq_some_iff {added : List (String × CertEntry)} {domain : String}
    {a : String × CertEntry} :
    serving? added domain = some a ↔ ∃ before after, added = before ++ a :: after ∧
      Covers (Text.asciiLower a.1) (Text.asciiLower domain) ∧
      (∀ b ∈ added, Covers (Text.asciiLower b.1) (Text.asciiLower domain) →
        Text.asciiLower b.1 = Text.asciiLower a.1 ∨
          Narrower (Text.asciiLower domain) (Text.asciiLower a.1) (Text.asciiLower b.1)) ∧
      ∀ b ∈ before, Text.asciiLower b.1 ≠ Text.asciiLower a.1 := by
  have hp := pairwise_lookupForms (Text.asciiLower domain)
  simp only [← mem_lookupForms_iff]
  constructor
  · intro h
    obtain ⟨narrow, form, wide, hforms, hfound, hnone⟩ := List.findSome?_eq_some_iff.mp h
    obtain ⟨hform, before, after, rfl, hbefore⟩ := List.find?_eq_some_iff_append.mp hfound
    obtain rfl := eq_of_beq hform
    rw [hforms]
    refine ⟨before, after, rfl, List.mem_append_cons_self, ?_, ?_⟩
    · intro b hb hm
      rcases List.mem_append.mp hm with hm | hm
      · have hb' := List.find?_eq_none.mp (hnone _ hm) b hb
        exact absurd (beq_self_eq_true _) hb'
      · rcases List.mem_cons.mp hm with hm | hm
        · exact .inl hm
        · rw [hforms] at hp
          have hw := (List.pairwise_cons.mp (List.pairwise_append.mp hp).2.1).1 _ hm
          by_cases he : Text.asciiLower b.1 = Text.asciiLower a.1
          · exact .inl he
          · exact .inr (hw (Ne.symm he))
    · intro b hb
      simpa using hbefore b hb
  · rintro ⟨before, after, rfl, hmem, hall, hbefore⟩
    obtain ⟨narrow, wide, hforms, hfirst⟩ := List.eq_append_cons_of_mem hmem
    apply List.findSome?_eq_some_iff.mpr
    refine ⟨narrow, _, wide, hforms, ?_, ?_⟩
    · apply List.find?_eq_some_iff_append.mpr
      refine ⟨beq_self_eq_true _, before, after, rfl, ?_⟩
      intro b hb
      simpa using hbefore b hb
    · intro form hf
      rw [List.find?_eq_none]
      intro b hb hbf
      obtain rfl := eq_of_beq hbf
      -- A narrower form would be that of an entry that is wider than the one that serves.
      have hm : Text.asciiLower b.1 ∈ lookupForms (Text.asciiLower domain) := by
        rw [hforms]
        exact List.mem_append_left _ hf
      rw [hforms] at hp
      have hn := (List.pairwise_append.mp hp).2.2 _ hf _ List.mem_cons_self
      have hne : Text.asciiLower b.1 ≠ Text.asciiLower a.1 := fun he ↦ hfirst (he ▸ hf)
      rcases hall b hb hm with he | hw
      · exact hne he
      · exact not_narrower_of_narrower hw (hn hne)

private theorem asciiLower_wildcard (suffix : String) :
    Text.asciiLower ("*." ++ suffix) = "*." ++ Text.asciiLower suffix := by
  rw [← String.toList_inj, Text.asciiLower, Text.asciiLower]
  simp

/-- After any steps a domain is served by the entry with the narrowest pattern that covers it, by
the first of those with that pattern, and by none if no pattern covers it. A pattern of a suffix
does not cover the suffix, and the certificate of the authority plays no part. -/
theorem get?_after_steps {w : World} {cadir basename : String} {opened : CertStore}
    (h : (ofDir w cadir basename).result = .ok opened) (steps : List Step) (domain : String) :
    ((steps.foldl Step.apply opened).get? domain = none ↔
        ∀ a ∈ steps.flatMap Step.added, ¬Covers (Text.asciiLower a.1) (Text.asciiLower domain)) ∧
      (∀ entry, (steps.foldl Step.apply opened).get? domain = some entry ↔
        ∃ before pattern after, steps.flatMap Step.added = before ++ (pattern, entry) :: after ∧
          Covers (Text.asciiLower pattern) (Text.asciiLower domain) ∧
          (∀ b ∈ steps.flatMap Step.added, Covers (Text.asciiLower b.1) (Text.asciiLower domain) →
            Text.asciiLower b.1 = Text.asciiLower pattern ∨
              Narrower (Text.asciiLower domain) (Text.asciiLower pattern) (Text.asciiLower b.1)) ∧
          ∀ b ∈ before, Text.asciiLower b.1 ≠ Text.asciiLower pattern) ∧
      (∀ suffix, ¬Covers (Text.asciiLower ("*." ++ suffix)) (Text.asciiLower suffix)) ∧
      ∀ ca, { steps.foldl Step.apply opened with ca := ca }.get? domain =
        (steps.foldl Step.apply opened).get? domain := by
  have hr := records_run (records_ofDir h) steps
  rw [List.nil_append] at hr
  refine ⟨?_, fun entry ↦ ?_, fun suffix ↦ ?_, fun ca ↦ rfl⟩
  · rw [get?_of_records hr, Option.map_eq_none_iff, serving?_eq_none_iff]
  · rw [get?_of_records hr, Option.map_eq_some_iff]
    constructor
    · rintro ⟨⟨pattern, _⟩, hs, rfl⟩
      obtain ⟨before, after, hb⟩ := serving?_eq_some_iff.mp hs
      exact ⟨before, pattern, after, hb⟩
    · rintro ⟨before, pattern, after, hb⟩
      exact ⟨_, serving?_eq_some_iff.mpr ⟨before, after, hb⟩, rfl⟩
  · rw [asciiLower_wildcard]
    exact not_covers_suffix _

/-- A file with one certificate. -/
def samplePem : List UInt8 :=
  Utf8.encode "-----BEGIN CERTIFICATE-----\nAAAA\n-----END CERTIFICATE-----\n"

/-- A root directory with one file, that of the authority. -/
def sampleWorld : World := ⟨[(["mitmproxy-ca.pem"], .file samplePem)], .ok "/", some "/", []⟩

/-- An entry of that file. -/
def sampleEntry (domain : String) : CertEntry :=
  ⟨domain, "/mitmproxy-ca.pem", [0, 0, 0], [], none⟩

private theorem find_sample : sampleWorld.find "/mitmproxy-ca.pem" = .ok (.file samplePem) :=
  World.find_file_of_root ⟨rfl, rfl, by decide⟩ rfl (by decide) rfl

/-- The file of the authority loads for every domain. -/
theorem load_sample (domain : String) :
    CertEntry.load sampleWorld domain "/mitmproxy-ca.pem" =
      .ok (sampleEntry (Text.asciiLower domain)) := by
  rw [CertEntry.load, World.read, find_sample]
  rfl

/-- A wildcard serves a domain before the pattern of all domains, where the file for the domain
itself is missing. -/
theorem get?_after_steps_sample :
    ∃ opened, (ofDir sampleWorld "/" "mitmproxy").result = .ok opened ∧ opened.ca.isSome = true ∧
      ([Step.file sampleWorld "*" "/mitmproxy-ca.pem",
        .specs sampleWorld [⟨"*.Example.com", "/mitmproxy-ca.pem"⟩, ⟨"a.example.com", ""⟩]].foldl
          Step.apply opened).get? "A.example.COM" =
        some (sampleEntry "*.example.com") := by
  have ho : (ofDir sampleWorld "/" "mitmproxy").result =
      .ok ⟨"/", "mitmproxy", some (sampleEntry "*"), []⟩ := by
    have hp : caPath "/" "mitmproxy" = "/mitmproxy-ca.pem" := by decide
    rw [ofDir, hp, if_pos (World.isFile_iff.mpr ⟨_, find_sample⟩)]
    simp only [Traced.result_bind, Traced.result_log, Traced.result_lift, load_sample]
    rfl
  have hm : CertEntry.load sampleWorld "a.example.com" "" = .error (.io .notFound) := rfl
  refine ⟨_, ho, rfl, ((get?_after_steps ho _ _).2.1 _).mpr
    ⟨[("*", sampleEntry "*")], "*.Example.com", [], ?_⟩⟩
  simp only [List.flatMap_cons, List.flatMap_nil, Step.added, loaded, load_sample, hm]
  refine ⟨rfl, .inr (.inr ⟨"a", "example.com", by decide, by decide⟩), ?_, by decide⟩
  intro b hb _
  rcases List.mem_cons.mp hb with rfl | hb
  · exact .inr ⟨by decide, .inr (.inr ⟨by decide, by decide⟩)⟩
  · obtain rfl := List.mem_singleton.mp hb
    exact .inl rfl

end ProxySettings.CertStore
