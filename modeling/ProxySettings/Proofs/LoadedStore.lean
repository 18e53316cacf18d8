import Mathlib.Data.List.Forall2
import Mathlib.Logic.Relation
import ProxySettings.Certs.Store
import ProxySettings.Proofs.Refusal

/-!
# What a store has loaded

An entry has the certificates of its file, in order. A store that was opened without a refusal has
an authority exactly if its file is there, and after files were added without a refusal it has one
more entry for each of them.
-/

namespace ProxySettings

/-- A traversal that succeeds gives a value for each item, in order. -/
theorem mapM_eq_ok_iff {α ι : Type} {f : ι → Except ConfigError α} {xs : List ι} {as : List α} :
    xs.mapM f = .ok as ↔ List.Forall₂ (fun x a ↦ f x = .ok a) xs as := by
  induction xs generalizing as with
  | nil =>
    rw [List.forall₂_nil_left_iff, List.mapM_nil]
    exact ⟨fun h ↦ (Except.ok.inj h).symm, fun h ↦ h ▸ rfl⟩
  | cons x xs ih =>
    rw [List.mapM_cons, List.forall₂_cons_left_iff]
    constructor
    · intro h
      obtain ⟨a, ha, h⟩ := exists_of_bind_eq_ok h
      obtain ⟨rest, hrest, h⟩ := exists_of_bind_eq_ok h
      exact ⟨a, rest, ha, ih.mp hrest, (Except.ok.inj h).symm⟩
    · rintro ⟨a, rest, ha, hrest, rfl⟩
      rw [ha, ih.mpr hrest]
      rfl

/-- Every item on the right of two related lists is related to one on the left. -/
theorem exists_of_forall₂_right {α β : Type} {R : α → β → Prop} {as : List α} {bs : List β}
    (h : List.Forall₂ R as bs) {b : β} (hb : b ∈ bs) : ∃ a ∈ as, R a b := by
  induction h with
  | nil => exact absurd hb List.not_mem_nil
  | cons hr _ ih =>
    rcases List.mem_cons.mp hb with rfl | hb
    · exact ⟨_, List.mem_cons_self, hr⟩
    · obtain ⟨a, ha, hab⟩ := ih hb
      exact ⟨a, List.mem_cons_of_mem _ ha, hab⟩

/-- Items related to items that are related to others are related to those, one by one. -/
theorem forall₂_comp {α β γ : Type} {R : α → β → Prop} {S : β → γ → Prop} {as : List α}
    {bs : List β} {cs : List γ} (hR : List.Forall₂ R as bs) (hS : List.Forall₂ S bs cs) :
    List.Forall₂ (Relation.Comp R S) as cs := by
  induction hR generalizing cs with
  | nil =>
    obtain rfl := (List.forall₂_nil_left_iff).mp hS
    exact .nil
  | cons hr _ ih =>
    obtain ⟨c, rest, hs, hrest, rfl⟩ := List.forall₂_cons_left_iff.mp hS
    exact .cons ⟨_, hr, hs⟩ (ih hrest)

namespace CertEntry

/-- An entry is that of a file: its lower-case domain, its path, the file's certificates in order,
and the first private key among the file's sections. -/
structure IsLoaded (w : World) (domain path : String) (entry : CertEntry) : Prop where
  domain_eq : entry.domain = Text.asciiLower domain
  path_eq : entry.path = path
  contents : ∃ bytes sections, w.find path = .ok (.file bytes) ∧
    Pem.sections bytes = .ok sections ∧ entry.chain = certificates sections ∧
    entry.key = privateKey? sections

theorem ofPem_eq_ok_iff {domain path : String} {bytes : List UInt8} {entry : CertEntry} :
    ofPem domain path bytes = .ok entry ↔ ∃ sections, Pem.sections bytes = .ok sections ∧
      entry.domain = Text.asciiLower domain ∧ entry.path = path ∧
      entry.chain = certificates sections ∧ entry.key = privateKey? sections := by
  rw [ofPem]
  cases Pem.sections bytes with
  | error fault => simp
  | ok sections =>
    simp only [Except.ok.injEq, exists_eq_left', chain]
    cases hc : certificates sections with
    | nil => simp
    | cons leaf issuers =>
      obtain ⟨domain', path', leaf', issuers', key⟩ := entry
      simp only [Except.ok.injEq, mk.injEq, List.cons.injEq]
      constructor
      · rintro ⟨rfl, rfl, rfl, rfl, rfl⟩
        exact ⟨rfl, rfl, ⟨rfl, rfl⟩, rfl⟩
      · rintro ⟨rfl, rfl, ⟨rfl, rfl⟩, rfl⟩
        exact ⟨rfl, rfl, rfl, rfl, rfl⟩

/-- Loading gives exactly the entry of the file. -/
theorem load_eq_ok_iff {w : World} {domain path : String} {entry : CertEntry} :
    load w domain path = .ok entry ↔ IsLoaded w domain path entry := by
  have hread (bytes : List UInt8) (hf : w.find path = .ok (.file bytes)) :
      load w domain path = .ok entry ↔ ofPem domain path bytes = .ok entry := by
    rw [load, World.read, hf]
    simp only
    cases ofPem domain path bytes <;> simp [Except.mapError]
  constructor
  · intro h
    cases hf : w.find path with
    | error fault =>
      rw [load, World.read, hf] at h
      cases h
    | ok found =>
      cases found with
      | dir =>
        rw [load, World.read, hf] at h
        cases h
      | link target =>
        rw [load, World.read, hf] at h
        cases h
      | file bytes =>
        obtain ⟨sections, hs, hd, hp, hc, hk⟩ := ofPem_eq_ok_iff.mp ((hread bytes hf).mp h)
        exact ⟨hd, hp, bytes, sections, hf, hs, hc, hk⟩
  · rintro ⟨hd, hp, bytes, sections, hf, hs, hc, hk⟩
    exact (hread bytes hf).mpr (ofPem_eq_ok_iff.mpr ⟨sections, hs, hd, hp, hc, hk⟩)

end CertEntry

namespace CertStore

/-- A store that was opened is empty. It has an authority exactly if its file is there, and then the
one that the file holds. -/
theorem of_ofDir {w : World} {cadir basename : String} {s : CertStore}
    (h : (ofDir w cadir basename).result = .ok s) :
    s.cadir = cadir ∧ s.basename = basename ∧ s.entries = [] ∧
      (s.ca.isSome = true ↔ w.isFile (caPath cadir basename) = true) ∧
      ∀ ca ∈ s.ca, CertEntry.load w CertSpec.anyDomain (caPath cadir basename) = .ok ca := by
  rw [ofDir] at h
  split at h
  · next hf =>
    simp only [Traced.result_bind, Traced.result_log, Traced.result_lift] at h
    obtain ⟨_, -, h⟩ := exists_of_bind_eq_ok h
    obtain ⟨ca, hca, h⟩ := exists_of_bind_eq_ok h
    obtain rfl := Except.ok.inj h
    exact ⟨rfl, rfl, rfl, by simp [hf], fun _ hm ↦ Option.some.inj hm ▸ hca⟩
  · next hf =>
    obtain rfl := Except.ok.inj h
    exact ⟨rfl, rfl, rfl, by simp [hf], fun _ hm ↦ absurd hm (Option.not_mem_none _)⟩

/-- A store opens with the authority that its file holds. -/
theorem ofDir_of_load {w : World} {cadir basename : String} {ca : CertEntry}
    (h : CertEntry.load w CertSpec.anyDomain (caPath cadir basename) = .ok ca) :
    (ofDir w cadir basename).result = .ok ⟨cadir, basename, some ca, []⟩ := by
  obtain ⟨bytes, -, hf, -⟩ := (CertEntry.load_eq_ok_iff.mp h).contents
  rw [ofDir, if_pos (World.isFile_iff.mpr ⟨bytes, hf⟩)]
  simp only [Traced.result_bind, Traced.result_log, Traced.result_lift, h]
  rfl

/-- Files that are added without a refusal add their entries, and change nothing else. -/
theorem of_addAll {w : World} {specs : List CertSpec} {s s' : CertStore}
    (h : (s.addAll w specs).traced.result = .ok s') : ∃ added,
      s' = { s with entries := s.entries ++ added } ∧ List.Forall₂
        (fun spec entry ↦ CertEntry.load w spec.domain spec.path = .ok entry) specs added := by
  induction specs generalizing s with
  | nil =>
    obtain rfl := Except.ok.inj h
    exact ⟨[], by rw [List.append_nil]; rfl, .nil⟩
  | cons spec specs ih =>
    rw [addAll] at h
    cases hl : CertEntry.load w spec.domain spec.path with
    | error e =>
      rw [hl] at h
      cases h
    | ok entry =>
      rw [hl] at h
      obtain ⟨added, rfl, hadded⟩ := ih h
      exact ⟨entry :: added, by rw [List.append_assoc]; rfl, .cons hl hadded⟩

end CertStore

end ProxySettings
