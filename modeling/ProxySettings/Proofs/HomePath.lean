import ProxySettings.Proofs.HomeText
import ProxySettings.Proofs.ResolvedConfig
import ProxySettings.Proofs.ServerAddress
import ProxySettings.Proofs.SizeGrammar
import ProxySettings.Proofs.Splitting

/-!
# Paths in the home directory

A text that starts with the mark of the home directory stands for a path in it: the names of the
directory come first, and then those behind the mark. A rest that is an absolute path itself breaks
this. It takes the place of the home directory, so that the path leads out of it, unless the home
directory is the root.
-/

namespace ProxySettings

namespace World

/-! ## Names of paths -/

/-- The names that a path goes through, parents among them. Empty names and dots lead nowhere. -/
def names (path : String) : List String :=
  (components path).filter fun name ↦ name ≠ "" ∧ name ≠ "."

theorem names_empty : names "" = [] := rfl

/-- A slash divides the names of a path. -/
theorem names_append_slash (before after : String) :
    names (before ++ "/" ++ after) = names before ++ names after := by
  have ht : (before ++ "/" ++ after).toList = before.toList ++ '/' :: after.toList := by simp
  have hc : components (before ++ "/" ++ after) = components before ++ components after := by
    rw [components, ht, Text.splitOnAll_append_cons (p := (· == '/')) (beq_self_eq_true '/'),
      List.map_append]
    rfl
  rw [names, hc, List.filter_append]
  rfl

theorem names_concat_slash (path : String) : names (path ++ "/") = names path := by
  have h := names_append_slash path ""
  rwa [String.append_empty, names_empty, List.append_nil] at h

/-- A path that is seen from a directory goes through the names of the directory first. -/
theorem names_join {path : String} (h : isAbsolute path = false) (dir : String) :
    names (join dir path) = names dir ++ names path := by
  rw [join, if_neg (Bool.eq_false_iff.mp h)]
  split
  · next hd =>
    rcases hd with hd | hd
    · rw [String.isEmpty_iff.mp hd, String.empty_append, names_empty, List.nil_append]
    · obtain ⟨front, hf⟩ := List.getLast?_eq_some_iff.mp hd
      have hdir : dir = String.ofList front ++ "/" := by
        rw [← String.toList_inj, hf, String.toList_append, String.toList_ofList]
        rfl
      rw [hdir, names_append_slash, names_concat_slash]
  · exact names_append_slash dir path

theorem join_of_isAbsolute {path : String} (h : isAbsolute path = true) (dir : String) :
    join dir path = path := by
  rw [join, if_pos h]

/-! ## Paths below the home directory -/

/-- A path starts at the root and goes through the names of a directory, and then through those of
a rest. -/
structure IsBelow (dir rest path : String) : Prop where
  absolute : isAbsolute path = true
  names_eq : names path = names dir ++ names rest

/-- What is used for a text is below the home directory, if the text is for a path in it. -/
def StaysHome (home text path : String) : Prop :=
  ∀ rest, IsHomeText text rest → IsBelow home rest path

/-- A text has an absolute path behind the mark, and the home directory is not the root. -/
def LeavesHome (home text : String) : Prop :=
  ∃ rest, text = "~/" ++ rest ∧ isAbsolute rest = true ∧ names home ≠ []

variable {w : World} {home text rest path : String}

/-- An expanded text for a path in the home directory is an absolute path. -/
theorem isAbsolute_of_expandUser (hw : w.home = some home) (hh : isAbsolute home = true)
    (ht : IsHomeText text rest) (he : w.expandUser text = .ok path) : isAbsolute path = true := by
  cases ht with
  | home =>
    rw [expandUser_home_of_some hw] at he
    exact Except.ok.inj he ▸ hh
  | below =>
    rw [expandUser_below_of_some hw] at he
    exact Except.ok.inj he ▸ isAbsolute_join hh rest

/-- The working directory does not count for a path in the home directory. -/
theorem absolute_eq_expandUser (hw : w.home = some home) (hh : isAbsolute home = true)
    (ht : IsHomeText text rest) : w.absolute text = w.expandUser text := by
  obtain ⟨path, he⟩ := exists_expandUser hw text
  rw [absolute, he]
  exact if_pos (isAbsolute_of_expandUser hw hh ht he)

/-- A relative rest is found below the home directory, and so is an absolute one if the home
directory is the root. -/
theorem isBelow_join_iff (hh : isAbsolute home = true) :
    IsBelow home rest (join home rest) ↔ isAbsolute rest = false ∨ names home = [] := by
  cases hr : isAbsolute rest with
  | false => exact ⟨fun _ ↦ .inl rfl, fun _ ↦ ⟨isAbsolute_join hh rest, names_join hr home⟩⟩
  | true =>
    rw [join_of_isAbsolute hr]
    constructor
    · intro hb
      exact .inr (List.append_left_eq_self.mp hb.names_eq.symm)
    · intro h
      have hroot : names home = [] := h.resolve_left (by decide)
      exact ⟨hr, by rw [hroot, List.nil_append]⟩

theorem staysHome_iff (hw : w.home = some home) (hh : isAbsolute home = true)
    (he : w.expandUser text = .ok path) : StaysHome home text path ↔ ¬LeavesHome home text := by
  constructor
  · rintro hs ⟨rest, rfl, hr, hroot⟩
    have hb := hs rest (.below rest)
    rw [expandUser_below_of_some hw] at he
    obtain rfl : join home rest = path := Except.ok.inj he
    rw [isBelow_join_iff hh, hr] at hb
    exact hroot (hb.resolve_left (by decide))
  · intro hl rest ht
    cases ht with
    | home =>
      rw [expandUser_home_of_some hw] at he
      obtain rfl : home = path := Except.ok.inj he
      exact ⟨hh, (List.append_nil _).symm⟩
    | below =>
      rw [expandUser_below_of_some hw] at he
      obtain rfl : join home rest = path := Except.ok.inj he
      rw [isBelow_join_iff hh, ← Bool.not_eq_true, ← imp_iff_not_or]
      intro hr
      by_contra hroot
      exact hl ⟨rest, rfl, hr, hroot⟩

end World

/-! ## Paths of settings -/

/-- A text of settings that names a path. -/
inductive Settings.NamesPath (s : Settings) : String → Prop
  | certificate {text : String} (h : text ∈ s.certs) : s.NamesPath (CertSpec.sides text).2
  | htpasswd {text : String} (h : s.authOptions.htpasswdPath = some text) : s.NamesPath text
  | clientcerts {text : String} (h : s.clientcerts = some text) : s.NamesPath text
  | cadir : s.NamesPath s.cadir

/-- A text of settings names a path, and a configuration uses a path for it. -/
inductive Config.Uses (c : Config) (s : Settings) : String → String → Prop
  | certificate {text : String} {entry : CertEntry}
    (h : (text, entry) ∈ s.certs.zip c.certstore.entries) :
    c.Uses s (CertSpec.sides text).2 entry.path
  | htpasswd {text : String} {file : Htpasswd} {challenge : List UInt8}
    (h : s.authOptions.htpasswdPath = some text)
    (ha : c.authenticator = .basic ⟨.htpasswd file, challenge⟩) : c.Uses s text file.path
  | clientcerts {text dir : String} (h : s.clientcerts = some text)
    (hd : c.clientcerts = some dir) : c.Uses s text dir
  | cadir : c.Uses s s.cadir c.cadir

/-- The path of a text is the expanded text; that of the authority's directory is seen from the
working directory. -/
theorem Config.Uses.path_eq {w : World} {s : Settings} {resolver : Option Resolver} {c : Config}
    {text path : String} (hr : c.ResolvedFrom w s resolver) (hu : c.Uses s text path) :
    w.expandUser text = .ok path ∨ w.absolute text = .ok path := by
  cases hu with
  | certificate h =>
    obtain ⟨path, hp, hl⟩ := (List.forall₂_iff_zip.mp hr.store.2.2).2 h
    rw [(CertEntry.load_eq_ok_iff.mp hl).path_eq]
    exact .inl hp
  | htpasswd h ha =>
    have hselect := hr.authenticator_eq
    rw [ha] at hselect
    obtain ⟨text', path, ht, hp, hl⟩ := AuthOptions.load_of_select hselect
    obtain rfl := Option.some.inj (h.symm.trans ht)
    rw [Htpasswd.path_of_load hl]
    exact .inl hp
  | clientcerts h hd =>
    obtain ⟨given, hg, hp⟩ := ((Config.of_clientCertDir hr.clientcerts_eq).1 _).mp hd
    obtain rfl := Option.some.inj (h.symm.trans hg)
    exact .inl hp
  | cadir => exact .inr hr.cadir_eq

/-! ## Paths of refusals -/

/-- The path where a refusal misses what it is to lead to. -/
def ConfigError.missingPath? : ConfigError → Option String
  | fileNotFound _ path | notADirectory _ path | notAFile _ path => some path
  | _ => none

/-- The text by which a requirement names a path. -/
def Requirement.pathText? : Requirement → Option String
  | directory path => path
  | backend o => o.htpasswdPath
  | certSpec text | certFile text => some (CertSpec.sides text).2
  | authorityDir path | authority path => some path
  | _ => none

/-- A file that is there is refused for what it holds. -/
theorem CertEntry.missingPath?_of_load {w : World} {domain path : String} {e : ConfigError}
    (h : load w domain path = .error e) : e.missingPath? = none := by
  rw [load] at h
  split at h
  · rw [← Except.error.inj h]
    rfl
  · rw [← Except.error.inj h]
    rfl
  · next bytes _ =>
    cases hp : ofPem domain path bytes with
    | error fault =>
      rw [hp] at h
      rw [← Except.error.inj h]
      rfl
    | ok entry =>
      rw [hp] at h
      cases h

/-- A file of credentials is missing at its own path. -/
theorem Htpasswd.Unusable.missingPath_eq {w : World} {path missing : String} {e : ConfigError}
    (h : Unusable w path e) (hm : e.missingPath? = some missing) : missing = path := by
  cases h with
  | missing => exact (Option.some.inj hm).symm
  | notFile => exact (Option.some.inj hm).symm
  | notText => cases hm
  | malformed => cases hm

namespace Requirement

variable {w : World} {q : Requirement} {e : ConfigError} {missing : String}

theorem missingPath_of_refuseUnless {isMet : Bool} {e' : ConfigError}
    (h : refuseUnless isMet e' = some e) (hm : e.missingPath? = some missing) :
    e'.missingPath? = some missing := by
  rwa [eq_of_refuseUnless_eq_some h]

/-- Nothing is missing at the path of a text that cannot be expanded. -/
theorem missingPath?_of_expandUser {text : String} (h : w.expandUser text = .error e) :
    e.missingPath? = none := by
  rw [(World.expandUser_eq_error_iff.mp h).1]
  rfl

theorem missingPath?_of_absolute {text : String} (h : w.absolute text = .error e) :
    e.missingPath? = none := by
  rcases bind_eq_error_iff.mp h with he | ⟨path, -, hp⟩
  · exact missingPath?_of_expandUser he
  · split at hp
    · cases hp
    · rcases bind_eq_error_iff.mp hp with hd | ⟨dir, -, hd⟩
      · cases hw : w.workDir with
        | error fault =>
          rw [hw] at hd
          rw [← Except.error.inj hd]
          rfl
        | ok dir =>
          rw [hw] at hd
          cases hd
      · cases hd

/-- What an expanded text leads to is missed at its path, unless the text cannot be expanded. -/
theorem expandUser_of_firstRefusal {text : String} {f : String → Option ConfigError}
    (hf : ∀ path, f path = some e → missing = path)
    (h : firstRefusal? (w.expandUser text) f = some e) (hm : e.missingPath? = some missing) :
    w.expandUser text = .ok missing := by
  rcases firstRefusal?_eq_some_iff.mp h with he | ⟨path, he, hp⟩
  · rw [missingPath?_of_expandUser he] at hm
    cases hm
  · rw [hf path hp, he]

/-- What a requirement misses is missed at the expanded text that names it. -/
theorem exists_pathText_of_fault (h : q.fault? w = some e) (hm : e.missingPath? = some missing) :
    ∃ text, q.pathText? = some text ∧ w.expandUser text = .ok missing := by
  cases q with
  | exclusive requested => cases missingPath_of_refuseUnless h hm
  | size text =>
    obtain ⟨t, -, ht⟩ := Option.bind_eq_some_iff.mp h
    rw [(Size.parse_eq_error_iff.mp (refusal?_eq_some_iff.mp ht)).2.2] at hm
    cases hm
  | form text =>
    obtain ⟨t, -, ht⟩ := Option.bind_eq_some_iff.mp h
    cases missingPath_of_refuseUnless ht hm
  | resolver isTransparent given => cases missingPath_of_refuseUnless h hm
  | server target =>
    obtain ⟨t, -, ht⟩ := Option.bind_eq_some_iff.mp h
    rw [(ServerSpec.parse_eq_error_iff.mp (refusal?_eq_some_iff.mp ht)).2] at hm
    cases hm
  | directory path =>
    obtain ⟨text, rfl, ht⟩ := Option.bind_eq_some_iff.mp h
    refine ⟨text, rfl, expandUser_of_firstRefusal (fun dir hd ↦ ?_) ht hm⟩
    split at hd
    · cases missingPath_of_refuseUnless hd hm
      rfl
    · rw [← Option.some.inj hd] at hm
      cases hm
      rfl
  | backend o =>
    rw [fault?] at h
    split at h
    · cases missingPath_of_refuseUnless h hm
    · split at h
      · cases h
      · obtain ⟨text, hp, ht⟩ := Option.bind_eq_some_iff.mp h
        refine ⟨text, hp, expandUser_of_firstRefusal (fun path hl ↦ ?_) ht hm⟩
        exact (Htpasswd.load_eq_error_iff.mp (refusal?_eq_some_iff.mp hl)).missingPath_eq hm
  | certSpec text =>
    rw [fault?] at h
    split at h
    · rw [← Option.some.inj h] at hm
      cases hm
    · refine ⟨_, rfl, expandUser_of_firstRefusal (fun path hp ↦ ?_) h hm⟩
      cases missingPath_of_refuseUnless hp hm
      rfl
  | hostPattern text => cases missingPath_of_refuseUnless h hm
  | authorityDir path =>
    rw [missingPath?_of_absolute (refusal?_eq_some_iff.mp h)] at hm
    cases hm
  | authority cadir =>
    obtain ⟨dir, -, hd⟩ := Option.bind_eq_some_iff.mp h
    split at hd
    · rw [CertEntry.missingPath?_of_load (refusal?_eq_some_iff.mp hd)] at hm
      cases hm
    · cases hd
  | certFile text =>
    refine ⟨_, rfl, expandUser_of_firstRefusal (fun path hl ↦ ?_) h hm⟩
    rw [CertEntry.missingPath?_of_load (refusal?_eq_some_iff.mp hl)] at hm
    cases hm
  | label text => cases missingPath_of_refuseUnless h hm

end Requirement

/-- A requirement of settings names a path by a text that the settings name one by. -/
theorem Settings.namesPath_of_mem {s : Settings} {resolver : Option Resolver} {q : Requirement}
    {text : String} (hq : q ∈ s.requirements resolver) (ht : q.pathText? = some text) :
    s.NamesPath text := by
  cases q with
  | directory path =>
    obtain rfl : path = s.clientcerts := by
      simpa [requirements, ModeOptions.requirements] using hq
    exact .clientcerts ht
  | backend o =>
    obtain rfl : o = s.authOptions := by simpa [requirements, ModeOptions.requirements] using hq
    exact .htpasswd ht
  | certSpec spec =>
    have hm : spec ∈ s.certs := by simpa [requirements, ModeOptions.requirements] using hq
    obtain rfl := Option.some.inj ht
    exact .certificate hm
  | certFile spec =>
    have hm : spec ∈ s.certs := by simpa [requirements, ModeOptions.requirements] using hq
    obtain rfl := Option.some.inj ht
    exact .certificate hm
  | authorityDir dir | authority dir =>
    obtain rfl : dir = s.cadir := by simpa [requirements, ModeOptions.requirements] using hq
    obtain rfl := Option.some.inj ht
    exact .cadir
  | exclusive | size | form | resolver | server | hostPattern | label => cases ht

/-- Settings are refused for what is missing at the expanded text of a path that they name. -/
theorem Config.exists_text_of_refused {w : World} {s : Settings} {resolver : Option Resolver}
    {e : ConfigError} {missing : String} (h : (resolve w s resolver).result = .error e)
    (hm : e.missingPath? = some missing) :
    ∃ text, s.NamesPath text ∧ w.expandUser text = .ok missing := by
  obtain ⟨before, q, after, hs, hq, -⟩ := (refused_resolve w s resolver).error_iff.mp h
  obtain ⟨text, ht, hp⟩ := Requirement.exists_pathText_of_fault hq hm
  have hmem : q ∈ s.requirements resolver := by
    rw [hs]
    exact List.mem_append_right before List.mem_cons_self
  exact ⟨text, Settings.namesPath_of_mem hmem ht, hp⟩

/-! ## The whole -/

/-- A text for a path in the home directory is expanded to a path below it, unless an absolute path
stands behind the mark: that is taken as it is, and leads out of every home directory but the root.
Every other text is the path itself. It is the same for each path of a configuration, and for the
path where a refusal misses something. -/
theorem home_text_stays_iff {w : World} {home : String} (hw : w.home = some home)
    (hh : World.isAbsolute home = true) :
    (∀ text, ∃ path, w.expandUser text = .ok path ∧
      (World.StaysHome home text path ↔ ¬World.LeavesHome home text)) ∧
    (∀ rest, World.isAbsolute rest = true → w.expandUser ("~/" ++ rest) = .ok rest) ∧
    (∀ text, (∀ rest, ¬World.IsHomeText text rest) → w.expandUser text = .ok text) ∧
    (∀ s resolver c, (Config.resolve w s resolver).result = .ok c → ∀ text path,
      c.Uses s text path → (∀ rest, World.IsHomeText text rest → w.expandUser text = .ok path) ∧
        (World.StaysHome home text path ↔ ¬World.LeavesHome home text)) ∧
    ∀ s resolver e, (Config.resolve w s resolver).result = .error e → ∀ missing ∈ e.missingPath?,
      ∃ text, s.NamesPath text ∧ w.expandUser text = .ok missing ∧
        (World.StaysHome home text missing ↔ ¬World.LeavesHome home text) := by
  refine ⟨fun text ↦ ?_, fun rest hr ↦ ?_, fun text ↦ World.expandUser_of_not_isHomeText,
    fun s resolver c hc text path hu ↦ ?_, fun s resolver e he missing hm ↦ ?_⟩
  · obtain ⟨path, hp⟩ := World.exists_expandUser hw text
    exact ⟨path, hp, World.staysHome_iff hw hh hp⟩
  · rw [World.expandUser_below_of_some hw, World.join_of_isAbsolute hr]
  · have hp := hu.path_eq (Config.resolvedFrom_of_resolve hc)
    have hexpand (rest : String) (ht : World.IsHomeText text rest) :
        w.expandUser text = .ok path := by
      rw [World.absolute_eq_expandUser hw hh ht, or_self] at hp
      exact hp
    refine ⟨hexpand, ?_⟩
    -- The path of any other text is of no account: such a text stays and does not leave.
    by_cases ht : ∃ rest, World.IsHomeText text rest
    · obtain ⟨rest, ht⟩ := ht
      exact World.staysHome_iff hw hh (hexpand rest ht)
    · have hs : World.StaysHome home text path := fun rest hr ↦ absurd ⟨rest, hr⟩ ht
      refine iff_of_true hs ?_
      rintro ⟨rest, rfl, -⟩
      exact ht ⟨rest, .below rest⟩
  · obtain ⟨text, hn, hp⟩ := Config.exists_text_of_refused he hm
    exact ⟨text, hn, hp, World.staysHome_iff hw hh hp⟩

namespace Config

/-- A home directory with client certificates. -/
def homeWorld : World :=
  ⟨[(["home"], .dir), (["home", "certs"], .dir)], .ok "/home", some "/home", []⟩

/-- Settings with two texts for paths in the home directory. One has an absolute path behind the
mark. -/
def homeSettings : Settings :=
  { Settings.default with clientcerts := some "~/certs", cadir := "~//ca" }

private theorem find_certs : homeWorld.find "/home/certs" = .ok .dir := by
  have hc : World.components "/home/certs" = ["", "home", "certs"] := rfl
  refine World.find_of_walk ⟨rfl, rfl, by decide⟩ ⟨["home", "certs"], ?_⟩
  rw [hc, World.walk_empty, World.walk_dir (by decide) rfl, World.walk_dir (by decide) rfl,
    World.walk]
  rfl

private theorem find_homeAuthority :
    homeWorld.find "/ca/mitmproxy-ca.pem" = .error .notFound := by
  have hc : World.components "/ca/mitmproxy-ca.pem" = ["", "ca", "mitmproxy-ca.pem"] := rfl
  refine World.find_of_walk_error ⟨rfl, rfl, by decide⟩ ?_
  rw [hc, World.walk_empty]
  exact World.walk_missing (by decide) rfl

end Config

/-- The client certificates are below the home directory, and the authority's directory is not. -/
theorem home_text_stays_sample :
    Config.homeWorld.home = some "/home" ∧ World.isAbsolute "/home" = true ∧
      ∃ c, (Config.resolve Config.homeWorld Config.homeSettings none).result = .ok c ∧
        c.clientcerts = some "/home/certs" ∧ World.StaysHome "/home" "~/certs" "/home/certs" ∧
        c.cadir = "/ca" ∧ ¬World.StaysHome "/home" "~//ca" "/ca" := by
  have hcerts : Config.homeWorld.expandUser "~/certs" = .ok "/home/certs" := by decide +kernel
  have hca : Config.homeWorld.expandUser "~//ca" = .ok "/ca" := by decide +kernel
  have habsolute : Config.homeWorld.absolute "~//ca" = .ok "/ca" := by decide +kernel
  have hj : World.join "/ca" "mitmproxy-ca.pem" = "/ca/mitmproxy-ca.pem" := by decide +kernel
  obtain ⟨c, hc⟩ : ∃ c, (Config.resolve Config.homeWorld Config.homeSettings none).result =
      .ok c := by
    have hr : Config.homeSettings.requirements none = [.exclusive [], .exclusive [], .size none,
        .form none, .form none, .resolver false none, .server none, .server none,
        .directory (some "~/certs"), .backend Config.homeSettings.authOptions,
        .authorityDir "~//ca", .authority "~//ca", .label "secure", .label "secure"] := rfl
    have hdirectory : Requirement.Holds Config.homeWorld (.directory (some "~/certs")) := by
      rintro _ ⟨⟩
      exact ⟨_, hcerts, Config.find_certs⟩
    have hauthority : Requirement.Holds Config.homeWorld (.authority "~//ca") := by
      intro dir hd bytes hf
      obtain rfl : "/ca" = dir := Except.ok.inj (habsolute.symm.trans hd)
      rw [hj, Config.find_homeAuthority] at hf
      cases hf
    rw [(Config.refused_resolve _ _ _).ok_iff, hr]
    simp only [Requirement.fault?_eq_none_iff, List.forall_mem_cons]
    exact ⟨Nat.zero_le 1, Nat.zero_le 1, nofun, nofun, nofun, nofun, nofun, nofun, hdirectory,
      .inr nofun, ⟨_, habsolute⟩, hauthority, ⟨.secure, by decide, rfl⟩,
      ⟨.secure, by decide, rfl⟩, nofun⟩
  have hdir : c.clientcerts = some "/home/certs" :=
    ((Config.of_clientCertDir (Config.resolvedFrom_of_resolve hc).clientcerts_eq).1 _).mpr
      ⟨"~/certs", rfl, hcerts⟩
  obtain ⟨-, -, -, hused, -⟩ := home_text_stays_iff (w := Config.homeWorld) rfl rfl
  obtain ⟨-, hstays⟩ := hused _ _ _ hc _ _ (.clientcerts rfl hdir)
  obtain ⟨hcadir, hleaves⟩ := hused _ _ _ hc _ _ .cadir
  have hroot : c.cadir = "/ca" := Except.ok.inj ((hcadir "/ca" (.below "/ca")).symm.trans hca)
  rw [hroot] at hleaves
  refine ⟨rfl, rfl, c, hc, hdir, hstays.mpr ?_, hroot, mt hleaves.mp (not_not_intro ?_)⟩
  · rintro ⟨rest, he, hr, -⟩
    obtain rfl : "certs" = rest := String.append_right_inj "~/" |>.mp he
    cases hr
  · exact ⟨"/ca", rfl, rfl, by decide +kernel⟩

/-- An absolute path behind the mark leads out of the home directory. -/
theorem absolute_rest_leaves_home :
    Config.homeWorld.home = some "/home" ∧ World.isAbsolute "/home" = true ∧
      World.IsHomeText "~//ca" "/ca" ∧ Config.homeWorld.expandUser "~//ca" = .ok "/ca" ∧
      ¬World.names "/home" <+: World.names "/ca" ∧ ¬World.StaysHome "/home" "~//ca" "/ca" := by
  refine ⟨rfl, rfl, .below "/ca", by decide +kernel, by decide +kernel, ?_⟩
  intro hs
  have hb := (hs "/ca" (.below "/ca")).names_eq
  revert hb
  decide +kernel

end ProxySettings
