import ProxySettings.Config
import ProxySettings.Proofs.Refusal
import ProxySettings.Proofs.SingleUser

/-!
# What settings have to meet

Settings resolve exactly if every one of a list of requirements holds, each taken by itself. A
refusal is that of the first requirement in the list that fails, whatever else fails after it.
-/

namespace ProxySettings

/-- One thing that settings have to meet. -/
inductive Requirement where
  | exclusive (requested : List Flag)
  | size (text : Option String)
  | form (text : Option String)
  | resolver (isTransparent : Bool) (given : Option Resolver)
  | server (target : Option String)
  | directory (path : Option String)
  | backend (options : AuthOptions)
  | certSpec (text : String)
  | hostPattern (text : String)
  | authorityDir (path : String)
  | authority (cadir : String)
  | certFile (text : String)
  | label (text : String)

namespace Requirement

/-- What a requirement says about settings in a world. -/
def Holds (w : World) : Requirement → Prop
  | exclusive requested => requested.length ≤ 1
  | size text => ∀ t ∈ text, ∃ limit, Size.parse t = .ok limit
  | form text => ∀ t ∈ nonEmpty text, t ∈ ["relative", "absolute", "authority"]
  | resolver isTransparent given => isTransparent = true → ∃ r, given = some r
  | server target => ∀ t ∈ target, ∃ server, ServerSpec.parse t = .ok server
  | directory path => ∀ p ∈ path, ∃ dir, w.expandUser p = .ok dir ∧ w.find dir = .ok .dir
  | backend o =>
    match o.singleuserSpec with
    | some spec => spec.toList.count ':' = 1
    | none => o.nonanonymous = true ∨ ∀ p ∈ o.htpasswdPath, ∃ path file,
        w.expandUser p = .ok path ∧ (Htpasswd.load w path).result = .ok file
  | certSpec text =>
    (CertSpec.sides text).1 ≠ "" ∧ (CertSpec.sides text).2 ≠ "" ∧ ∃ path entry,
      w.expandUser (CertSpec.sides text).2 = .ok path ∧ w.find path = .ok entry
  | hostPattern text => ∃ pattern, HostPattern.compile? text = some pattern
  | authorityDir path => ∃ dir, w.absolute path = .ok dir
  | authority cadir => ∀ dir, w.absolute cadir = .ok dir →
      ∀ bytes, w.find (World.join dir "mitmproxy-ca.pem") = .ok (.file bytes) →
        ∃ entry, CertEntry.load w "*" (World.join dir "mitmproxy-ca.pem") = .ok entry
  | certFile text => ∃ path entry, w.expandUser (CertSpec.sides text).2 = .ok path ∧
      CertEntry.load w (CertSpec.sides text).1 path = .ok entry
  | label text => ∃ version ∈ TlsVersion.choices, version.label = text

/-- The refusal for a requirement that does not hold. -/
def fault? (w : World) : Requirement → Option ConfigError
  | exclusive requested => refuseUnless (requested.length ≤ 1) (.mutuallyExclusive requested)
  | size text => text.bind fun t ↦ refusal? (Size.parse t)
  | form text => (nonEmpty text).bind fun t ↦
    refuseUnless (["relative", "absolute", "authority"].any (· == t)) (.invalidFormat .httpForm t)
  | resolver isTransparent given =>
    refuseUnless (!isTransparent || given.isSome) .transparentUnsupported
  | server target => target.bind fun t ↦ refusal? (ServerSpec.parse t)
  | directory path => path.bind fun p ↦ firstRefusal? (w.expandUser p) fun dir ↦
    if w.doesExist dir then refuseUnless (w.isDir dir) (.notADirectory .clientCerts dir)
    else some (.fileNotFound .clientCerts dir)
  | backend o =>
    match o.singleuserSpec with
    | some spec => refuseUnless (spec.toList.count ':' == 1) (.invalidFormat .singleUser spec)
    | none =>
      if o.nonanonymous then none
      else o.htpasswdPath.bind fun p ↦ firstRefusal? (w.expandUser p) fun path ↦
        refusal? (Htpasswd.load w path).result
  | certSpec text =>
    if (CertSpec.sides text).1 = "" ∨ (CertSpec.sides text).2 = "" then
      some (.invalidFormat .certSpec text)
    else firstRefusal? (w.expandUser (CertSpec.sides text).2) fun path ↦
      refuseUnless (w.doesExist path) (.fileNotFound .certificate path)
  | hostPattern text => refuseUnless (HostPattern.compile? text).isSome (.hostPattern text)
  | authorityDir path => refusal? (w.absolute path)
  | authority cadir => (w.absolute cadir).toOption.bind fun dir ↦
    if w.isFile (World.join dir "mitmproxy-ca.pem") then
      refusal? (CertEntry.load w "*" (World.join dir "mitmproxy-ca.pem"))
    else none
  | certFile text => firstRefusal? (w.expandUser (CertSpec.sides text).2) fun path ↦
    refusal? (CertEntry.load w (CertSpec.sides text).1 path)
  | label text =>
    refuseUnless (TlsVersion.choices.any (·.label == text)) (.invalidTlsVersion text)

@[simp] theorem fault?_server_none (w : World) : fault? w (.server none) = none := rfl

@[simp] theorem fault?_server_some (w : World) (target : String) :
    fault? w (.server (some target)) = refusal? (ServerSpec.parse target) := rfl

@[simp] theorem fault?_resolver_false (w : World) (given : Option Resolver) :
    fault? w (.resolver false given) = none := rfl

private theorem bind_eq_none_iff {text : Option String} {f : String → Option ConfigError}
    {holds : String → Prop} (h : ∀ t, f t = none ↔ holds t) :
    text.bind f = none ↔ ∀ t ∈ text, holds t := by
  cases text with
  | none => simp
  | some t => simpa using h t

/-- There is a refusal for every requirement that does not hold, and for no other. -/
theorem fault?_eq_none_iff (w : World) (q : Requirement) : q.fault? w = none ↔ q.Holds w := by
  cases q with
  | exclusive requested => rw [fault?, Holds, refuseUnless_eq_none_iff, decide_eq_true_eq]
  | size text => exact bind_eq_none_iff fun t ↦ refusal?_eq_none_iff
  | form text =>
    apply bind_eq_none_iff
    intro t
    rw [refuseUnless_eq_none_iff, List.any_beq', List.contains_iff_mem]
  | resolver isTransparent given =>
    rw [fault?, Holds, refuseUnless_eq_none_iff]
    cases isTransparent with
    | false => simp
    | true => simp [Option.isSome_iff_exists]
  | server target => exact bind_eq_none_iff fun t ↦ refusal?_eq_none_iff
  | directory path =>
    apply bind_eq_none_iff
    intro p
    rw [firstRefusal?_eq_none_iff]
    refine exists_congr fun dir ↦ and_congr_right fun _ ↦ ?_
    rw [← World.isDir_iff]
    split
    · exact refuseUnless_eq_none_iff
    · next h =>
      constructor
      · intro hf
        cases hf
      · intro hd
        exact absurd (World.doesExist_iff.mpr ⟨_, World.isDir_iff.mp hd⟩) h
  | backend o =>
    rw [fault?, Holds]
    cases o.singleuserSpec with
    | some spec => exact refuseUnless_eq_none_iff.trans beq_iff_eq
    | none =>
      by_cases h : o.nonanonymous = true
      · simp [h]
      · have hload (p : String) : (firstRefusal? (w.expandUser p) fun path ↦
            refusal? (Htpasswd.load w path).result) = none ↔ ∃ path file,
              w.expandUser p = .ok path ∧ (Htpasswd.load w path).result = .ok file := by
          simp only [firstRefusal?_eq_none_iff, refusal?_eq_none_iff, exists_and_left]
        simpa [h] using bind_eq_none_iff hload
  | certSpec text =>
    rw [fault?, Holds]
    split
    · next h =>
      constructor
      · intro hf
        cases hf
      · rintro ⟨hd, hp, -⟩
        exact (h.elim hd hp).elim
    · next h =>
      simp only [firstRefusal?_eq_none_iff, refuseUnless_eq_none_iff, World.doesExist_iff,
        exists_and_left]
      rw [not_or] at h
      exact ⟨fun he ↦ ⟨h.1, h.2, he⟩, fun he ↦ he.2.2⟩
  | hostPattern text =>
    rw [fault?, Holds, refuseUnless_eq_none_iff, Option.isSome_iff_exists]
  | authorityDir path => exact refusal?_eq_none_iff
  | authority cadir =>
    rw [fault?, Holds, Option.bind_eq_none_iff]
    have hdir (dir : String) : (w.absolute cadir).toOption = some dir ↔
        w.absolute cadir = .ok dir := by
      cases w.absolute cadir <;> simp [Except.toOption]
    refine forall_congr' fun dir ↦ imp_congr (hdir dir) ?_
    split
    · next h =>
      rw [refusal?_eq_none_iff]
      obtain ⟨bytes, hb⟩ := World.isFile_iff.mp h
      exact ⟨fun he _ _ ↦ he, fun he ↦ he bytes hb⟩
    · next h =>
      refine ⟨fun _ bytes hb ↦ ?_, fun _ ↦ rfl⟩
      exact absurd (World.isFile_iff.mpr ⟨bytes, hb⟩) h
  | certFile text =>
    simp only [fault?, Holds, firstRefusal?_eq_none_iff, refusal?_eq_none_iff, exists_and_left]
  | label text =>
    rw [fault?, Holds, refuseUnless_eq_none_iff, List.any_eq_true]
    simp only [beq_iff_eq]

end Requirement

end ProxySettings
