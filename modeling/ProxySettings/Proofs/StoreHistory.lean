import ProxySettings.Proofs.CertLookup
import ProxySettings.Proofs.PathWalk

/-!
# The history of a store

A store that was opened changes only by steps. A step goes through its specifications up to the
first file that cannot be loaded: what it has loaded by then stays in the store, its refusal is
returned, and the files after that one are not looked at. So a store holds what its steps have
loaded, in order, whatever happens to the files later.
-/

namespace ProxySettings

/-- No letter of a lower-case text is an ASCII capital. -/
theorem Text.isUpper_of_mem_asciiLower {s : String} {c : Char} (h : c ∈ (asciiLower s).toList) :
    c.isUpper = false := by
  rw [asciiLower, String.toList_ofList, List.mem_map] at h
  obtain ⟨d, -, rfl⟩ := h
  refine decide_eq_false ?_
  rintro ⟨hlow, hhigh⟩
  have hl : 65 ≤ d.toLower.toNat := UInt32.le_iff_toNat_le.mp hlow
  have hh : d.toLower.toNat ≤ 90 := UInt32.le_iff_toNat_le.mp hhigh
  rw [toNat_toLower] at hl hh
  split at hl <;> split at hh <;> omega

namespace CertEntry

/-- The first certificate of an entry is its leaf, and its pattern has no ASCII capitals. -/
structure IsServable (e : CertEntry) : Prop where
  leaf : e.chain.head? = some e.leaf
  lower : ∀ c ∈ e.domain.toList, c.isUpper = false

/-- A file without certificates gives no entry. -/
theorem load_of_certificates_eq_nil {w : World} {domain path : String} {bytes : List UInt8}
    {sections : List Pem.Section} (hf : w.find path = .ok (.file bytes))
    (hs : Pem.sections bytes = .ok sections) (hc : certificates sections = []) :
    load w domain path = .error (.certificate path .noCertificate) := by
  rw [load, World.read, hf]
  simp only [ofPem, hs, hc, Except.mapError]

theorem IsLoaded.isServable {w : World} {domain path : String} {entry : CertEntry}
    (h : IsLoaded w domain path entry) : entry.IsServable := by
  refine ⟨rfl, fun c hc ↦ ?_⟩
  rw [h.domain_eq] at hc
  exact Text.isUpper_of_mem_asciiLower hc

end CertEntry

namespace CertStore

/-! ## One step -/

/-- What going through specifications loads, and the refusal that it ends with: all files are
loaded, or those before the first that cannot be. -/
inductive Outcome (w : World) : List CertSpec → List CertEntry → Option ConfigError → Prop where
  | completed {specs : List CertSpec} {entries : List CertEntry}
    (loaded : List.Forall₂
      (fun spec entry ↦ CertEntry.load w spec.domain spec.path = .ok entry) specs entries) :
    Outcome w specs entries none
  | stopped {before after : List CertSpec} {spec : CertSpec} {entries : List CertEntry}
    {e : ConfigError} (loaded : List.Forall₂
      (fun spec entry ↦ CertEntry.load w spec.domain spec.path = .ok entry) before entries)
    (refused : CertEntry.load w spec.domain spec.path = .error e) :
    Outcome w (before ++ spec :: after) entries (some e)

/-- One more file that is loaded before all others. -/
theorem Outcome.cons {w : World} {spec : CertSpec} {specs : List CertSpec} {entry : CertEntry}
    {entries : List CertEntry} {fault : Option ConfigError}
    (hl : CertEntry.load w spec.domain spec.path = .ok entry) (h : Outcome w specs entries fault) :
    Outcome w (spec :: specs) (entry :: entries) fault := by
  cases h with
  | completed loaded => exact .completed (.cons hl loaded)
  | stopped loaded refused => exact .stopped (.cons hl loaded) refused

/-- What is loaded comes from a file of the step's world. -/
theorem Outcome.exists_load {w : World} {specs : List CertSpec} {entries : List CertEntry}
    {fault : Option ConfigError} (h : Outcome w specs entries fault) {entry : CertEntry}
    (hm : entry ∈ entries) :
    ∃ spec : CertSpec, CertEntry.load w spec.domain spec.path = .ok entry := by
  cases h with
  | completed loaded =>
    obtain ⟨spec, -, hl⟩ := exists_of_forall₂_right loaded hm
    exact ⟨spec, hl⟩
  | stopped loaded refused =>
    obtain ⟨spec, -, hl⟩ := exists_of_forall₂_right loaded hm
    exact ⟨spec, hl⟩

/-- Adding files appends what is loaded, and changes nothing else. -/
theorem outcome_addAll (s : CertStore) (w : World) (specs : List CertSpec) : ∃ added,
    Outcome w specs added (s.addAll w specs).fault ∧
      (s.addAll w specs).store = { s with entries := s.entries ++ added } := by
  induction specs generalizing s with
  | nil => exact ⟨[], .completed .nil, by rw [List.append_nil]; rfl⟩
  | cons spec specs ih =>
    rw [addAll]
    cases hl : CertEntry.load w spec.domain spec.path with
    | error e =>
      have ho : Outcome w ([] ++ spec :: specs) [] (some e) := .stopped .nil hl
      exact ⟨[], ho, by rw [List.append_nil]⟩
    | ok entry =>
      obtain ⟨added, ho, hs⟩ := ih { s with entries := s.entries ++ [entry] }
      exact ⟨entry :: added, ho.cons hl, by rw [hs, List.append_assoc]; rfl⟩

/-- What follows a file that cannot be loaded does not count. -/
theorem addAll_append_cons_of_error {w : World} {spec : CertSpec} {e : ConfigError}
    (hl : CertEntry.load w spec.domain spec.path = .error e) (s : CertStore)
    (before after : List CertSpec) :
    s.addAll w (before ++ spec :: after) = s.addAll w (before ++ [spec]) := by
  induction before generalizing s with
  | nil => simp only [List.nil_append, addAll, hl]
  | cons first before ih =>
    rw [List.cons_append, List.cons_append, addAll, addAll]
    cases CertEntry.load w first.domain first.path with
    | error e => rfl
    | ok entry => simp only [ih]

/-- The world of a step. -/
def Step.world : Step → World
  | file w _ _ => w
  | specs w _ => w

/-- The specifications that a step goes through. -/
def Step.given : Step → List CertSpec
  | file _ domain path => [⟨domain, path⟩]
  | specs _ given => given

/-- The change that a step makes to a store. -/
def Step.change (s : CertStore) : Step → Change
  | file w domain path => s.add w domain path
  | specs w given => s.addAll w given

theorem Step.change_eq (s : CertStore) (step : Step) :
    step.change s = s.addAll step.world step.given := by
  cases step <;> rfl

theorem Step.apply_eq (s : CertStore) (step : Step) : step.apply s = (step.change s).store := by
  cases step <;> rfl

/-! ## A run -/

/-- The refusals that steps return, one after the other. -/
def faults (s : CertStore) : List Step → List (Option ConfigError)
  | [] => []
  | step :: steps => (step.change s).fault :: faults (step.apply s) steps

/-- After any steps a store holds, after what it held before, what each of them loaded. -/
theorem outcomes_run (s : CertStore) (steps : List Step) :
    ∃ outcomes : List (List CertEntry × Option ConfigError),
      List.Forall₂ (fun step o ↦ Outcome step.world step.given o.1 o.2) steps outcomes ∧
      s.faults steps = outcomes.map (·.2) ∧
      steps.foldl Step.apply s = { s with entries := s.entries ++ outcomes.flatMap (·.1) } := by
  -- The store before the steps is arbitrary, so that the one after the first step may stand there.
  induction steps generalizing s with
  | nil => exact ⟨[], .nil, rfl, by rw [List.flatMap_nil, List.append_nil]; rfl⟩
  | cons step steps ih =>
    obtain ⟨added, ho, hs⟩ := outcome_addAll s step.world step.given
    rw [← Step.change_eq] at ho hs
    obtain ⟨outcomes, hall, hfaults, hrun⟩ := ih (step.apply s)
    refine ⟨(added, (step.change s).fault) :: outcomes, .cons ho hall, ?_, ?_⟩
    · rw [faults, hfaults, List.map_cons]
    · rw [List.foldl_cons, hrun, Step.apply_eq, hs, List.flatMap_cons, List.append_assoc]

/-- What a run has loaded comes from files in the worlds of its steps. -/
theorem isLoaded_of_outcomes {steps : List Step}
    {outcomes : List (List CertEntry × Option ConfigError)}
    (h : List.Forall₂ (fun step o ↦ Outcome step.world step.given o.1 o.2) steps outcomes)
    {entry : CertEntry} (hm : entry ∈ outcomes.flatMap (·.1)) :
    ∃ w domain path, CertEntry.IsLoaded w domain path entry := by
  obtain ⟨o, ho, hm⟩ := List.mem_flatMap.mp hm
  obtain ⟨step, -, hstep⟩ := exists_of_forall₂_right h ho
  obtain ⟨spec, hspec⟩ := hstep.exists_load hm
  exact ⟨_, _, _, CertEntry.load_eq_ok_iff.mp hspec⟩

/-- A store that was opened holds, after any steps, exactly what the steps have loaded, in order,
and every step returns the refusal of its own first file that cannot be loaded. What is in the store
stays there as it is, and its directory, its base name and its authority stay as well. Every entry
and the authority come from a file with certificates, the first of which is the leaf, and have no
capitals in their patterns; a file without certificates is refused. -/
theorem history_after_steps {w : World} {cadir basename : String} {opened : CertStore}
    (h : (ofDir w cadir basename).result = .ok opened) (steps : List Step) :
    (opened.cadir = cadir ∧ opened.basename = basename ∧
      ∃ outcomes : List (List CertEntry × Option ConfigError),
        List.Forall₂ (fun step o ↦ Outcome step.world step.given o.1 o.2) steps outcomes ∧
        opened.faults steps = outcomes.map (·.2) ∧
        steps.foldl Step.apply opened = { opened with entries := outcomes.flatMap (·.1) }) ∧
      (∀ w' spec e, CertEntry.load w' spec.domain spec.path = .error e → ∀ s : CertStore,
        ∀ before after, s.addAll w' (before ++ spec :: after) = s.addAll w' (before ++ [spec])) ∧
      (∀ first later, steps = first ++ later →
        (first.foldl Step.apply opened).entries <+: (steps.foldl Step.apply opened).entries) ∧
      (∀ entry, entry ∈ (steps.foldl Step.apply opened).entries ∨
          (steps.foldl Step.apply opened).ca = some entry →
        entry.IsServable ∧ ∃ w' domain path, CertEntry.IsLoaded w' domain path entry) ∧
      ∀ w' domain path bytes sections, w'.find path = .ok (.file bytes) →
        Pem.sections bytes = .ok sections → CertEntry.certificates sections = [] →
        CertEntry.load w' domain path = .error (.certificate path .noCertificate) := by
  obtain ⟨hcadir, hbasename, hentries, -, hca⟩ := of_ofDir h
  obtain ⟨outcomes, hall, hfaults, hrun⟩ := outcomes_run opened steps
  rw [hentries, List.nil_append] at hrun
  refine ⟨⟨hcadir, hbasename, outcomes, hall, hfaults, hrun⟩,
    fun w' spec e hl s before after ↦ addAll_append_cons_of_error hl s before after, ?_, ?_,
    fun w' domain path bytes sections hf hs hc ↦ CertEntry.load_of_certificates_eq_nil hf hs hc⟩
  · rintro first later rfl
    obtain ⟨more, -, -, hmore⟩ := outcomes_run (first.foldl Step.apply opened) later
    rw [List.foldl_append, hmore]
    exact List.prefix_append _ _
  · intro entry hm
    rw [hrun] at hm
    obtain ⟨w', domain, path, hi⟩ :
        ∃ w' domain path, CertEntry.IsLoaded w' domain path entry := by
      rcases hm with hm | hm
      · exact isLoaded_of_outcomes hall hm
      · exact ⟨_, _, _, CertEntry.load_eq_ok_iff.mp (hca entry hm)⟩
    exact ⟨hi.isServable, w', domain, path, hi⟩

/-- Specifications of which the second one names no file. -/
def sampleSpecs : List CertSpec :=
  [⟨"*.Example.com", "/mitmproxy-ca.pem"⟩, ⟨"a.test", ""⟩, ⟨"b.test", "/mitmproxy-ca.pem"⟩]

/-- Steps between which the files are removed and come back. -/
def sampleSteps : List Step :=
  [.specs sampleWorld sampleSpecs,
    .file { sampleWorld with entries := [] } "c.test" "/mitmproxy-ca.pem",
    .file sampleWorld "D.test" "/mitmproxy-ca.pem"]

/-- The second specification ends its step, and the step after it finds that the file is gone. What
the first specification has added stays. -/
theorem history_after_steps_sample :
    ∃ opened, (ofDir sampleWorld "/" "mitmproxy").result = .ok opened ∧
      opened.faults sampleSteps = [some (.io .notFound), some (.io .notFound), none] ∧
      [sampleEntry "*.example.com"] <+: (sampleSteps.foldl Step.apply opened).entries := by
  have ho : (ofDir sampleWorld "/" "mitmproxy").result =
      .ok ⟨"/", "mitmproxy", some (sampleEntry "*"), []⟩ := ofDir_of_load (load_sample "*")
  have hm : CertEntry.load sampleWorld "a.test" "" = .error (.io .notFound) := rfl
  have hg : CertEntry.load { sampleWorld with entries := [] } "c.test" "/mitmproxy-ca.pem" =
      .error (.io .notFound) := by
    have hc : World.components "/mitmproxy-ca.pem" = ["", "mitmproxy-ca.pem"] := rfl
    have hf : { sampleWorld with entries := [] }.find "/mitmproxy-ca.pem" = .error .notFound := by
      rw [World.find, World.locate_of_rooted ⟨rfl, rfl, by decide⟩, hc, World.walk_empty,
        World.walk_missing (by decide) rfl]
      rfl
    rw [CertEntry.load, World.read, hf]
  refine ⟨_, ho, ?_, ?_⟩
  · simp only [sampleSteps, faults, Step.change, Step.apply, add, addAll, sampleSpecs, load_sample,
      hm, hg]
  · have hp := (history_after_steps ho sampleSteps).2.2.1 (sampleSteps.take 1)
      (sampleSteps.drop 1) rfl
    have hfirst : ((sampleSteps.take 1).foldl Step.apply
        ⟨"/", "mitmproxy", some (sampleEntry "*"), []⟩).entries =
          [sampleEntry "*.example.com"] := by
      simp only [sampleSteps, List.take_succ_cons, List.take_zero, List.foldl_cons, List.foldl_nil,
        Step.apply, addAll, sampleSpecs, load_sample, hm]
      rfl
    rwa [hfirst] at hp

end CertStore

end ProxySettings
