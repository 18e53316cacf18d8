import ProxySettings.Check
import ProxySettings.Proofs.CredentialEntries
import ProxySettings.Proofs.FileContent
import ProxySettings.Proofs.LoadedStore
import ProxySettings.Proofs.Resolution
import ProxySettings.Proofs.SelectionOrder
import ProxySettings.Proofs.SingleUser
import ProxySettings.Proofs.TwoRuns

/-!
# Secrecy of passwords

A check of settings tells nothing about passwords. Two runs whose settings differ only in the
password of the single user, or whose worlds differ only in the passwords of a file of credentials,
leave the same events and end in the same way.
-/

namespace ProxySettings

open World (Place)
open Traced (Alike)

/-! ## What reports show -/

/-- Nothing that is reported tells two managers apart. -/
structure PasswordManager.LooksLike (m n : PasswordManager) : Prop where
  describe_eq : m.describe = n.describe
  backend_eq : m.backend = n.backend

/-- Nothing but the answers to passwords tells two authenticators apart. -/
structure Authenticator.LooksLike (a b : Authenticator) : Prop where
  describe_eq : a.describe = b.describe
  backend_eq : a.backend = b.backend
  challenge_eq : a.challenge = b.challenge
  clean_eq : ∀ headers, a.clean headers = b.clean headers

/-- Two configurations that are the same but for authenticators that look alike. -/
structure Config.LooksLike (c d : Config) : Prop where
  elsewhere : d = { c with authenticator := d.authenticator }
  authenticator : c.authenticator.LooksLike d.authenticator

theorem PasswordManager.LooksLike.refl (m : PasswordManager) : m.LooksLike m := ⟨rfl, rfl⟩

theorem Authenticator.describe_basic (auth : BasicAuth) : (Authenticator.basic auth).describe =
    "BasicProxyAuth \x7b manager: " ++ auth.manager.describe ++ ", backend: " ++
      auth.manager.backend.name ++ ", challenge: " ++ Header.describeValue auth.challenge ++
        " \x7d" := rfl

namespace Authenticator.LooksLike

/-- Authentication with one challenge looks like its manager. -/
theorem basic {m n : PasswordManager} (h : m.LooksLike n) (challenge : List UInt8) :
    (Authenticator.basic ⟨m, challenge⟩).LooksLike (.basic ⟨n, challenge⟩) where
  describe_eq := by simp only [describe_basic, h.describe_eq, h.backend_eq]
  backend_eq := h.backend_eq
  challenge_eq := rfl
  clean_eq _ := rfl

/-- Authenticators of managers that look alike look alike. -/
theorem of_managers {m n : Option PasswordManager}
    (h : Option.Rel PasswordManager.LooksLike m n) :
    (Authenticator.ofManager? m).LooksLike (Authenticator.ofManager? n) := by
  cases h with
  | none => exact ⟨rfl, rfl, rfl, fun _ ↦ rfl⟩
  | some h => exact basic h _

end Authenticator.LooksLike

/-! ## Selection -/

namespace AuthOptions

/-- The event of a selection. -/
def selectedEvent : Option PasswordManager → Event
  | none => ⟨.info, "Proxy authentication disabled", [("backend", AuthBackend.disabled.text)]⟩
  | some manager => ⟨.info, "Proxy authentication enabled",
      [("backend", manager.backend.text), ("realm", Text.quoted realm)]⟩

theorem authenticatorOf_eq (manager : Option PasswordManager) :
    authenticatorOf manager = ⟨[selectedEvent manager], .ok (.ofManager? manager)⟩ := by
  cases manager with
  | none => rfl
  | some manager =>
    simp only [authenticatorOf, Traced.log_bind, BasicAuth.ofRealm_realm, Traced.lift_ok_bind]
    rfl

/-- Selections whose managers look alike are alike. -/
theorem select_alike {o o' : AuthOptions} {w w' : World}
    (h : Alike (Option.Rel PasswordManager.LooksLike) (o.manager? w) (o'.manager? w')) :
    Alike Authenticator.LooksLike (o.select w) (o'.select w') := by
  have hs (o : AuthOptions) (w : World) : o.select w = o.manager? w >>= authenticatorOf := rfl
  rw [hs, hs]
  refine h.bind fun m n hmn ↦ ?_
  rw [authenticatorOf_eq, authenticatorOf_eq]
  refine ⟨?_, .value (.of_managers hmn)⟩
  cases hmn with
  | none => rfl
  | some hmn => simp only [selectedEvent, hmn.backend_eq]

theorem singleuserSpec_of_user {o : AuthOptions} {user password : String}
    (hs : o.singleuser = some (user ++ ":" ++ password)) :
    o.singleuserSpec = some (user ++ ":" ++ password) := by
  have hne : user ++ ":" ++ password ≠ "" := fun h ↦ by simpa using congrArg String.toList h
  rw [singleuserSpec, hs, nonEmpty, Option.filter_some, if_pos (decide_eq_true hne)]

/-- A specification of a user and a password is the only thing that selection looks at. -/
theorem manager?_of_user {o : AuthOptions} {user password : String}
    (hs : o.singleuser = some (user ++ ":" ++ password)) (hu : ':' ∉ user.toList)
    (hp : ':' ∉ password.toList) (w : World) :
    o.manager? w = return some (.singleUser ⟨user, password⟩) := by
  have hparse : SingleUser.parse (user ++ ":" ++ password) = .ok ⟨user, password⟩ :=
    SingleUser.parse_eq_ok_iff.mpr ⟨by simp, hu, hp⟩
  rw [manager?, singleuserSpec_of_user hs]
  simp only [hparse, Traced.lift_ok_bind]

end AuthOptions

namespace Htpasswd

variable {w w' : World} {path : String} {file file' : Htpasswd}

/-- A file that is loaded leaves one event: its path and the number of its users. -/
theorem load_of_result_eq_ok (h : (load w path).result = .ok file) :
    load w path = ⟨[⟨.debug, "Loaded htpasswd file",
        [("path", path), ("users", toString file.users.length)]⟩], .ok file⟩ := by
  rw [load] at h ⊢
  cases hr : readText w path with
  | error e =>
    rw [hr] at h
    cases h
  | ok text =>
    simp only [hr, Traced.lift_ok_bind] at h ⊢
    cases hp : parseLines 1 (Text.lines text) with
    | error fault =>
      rw [hp] at h
      cases h
    | ok entries =>
      rw [hp] at h
      obtain rfl := Except.ok.inj h
      rfl

/-- Two files at one path with as many users look alike. -/
theorem load_alike (h : (load w path).result = .ok file) (h' : (load w' path).result = .ok file')
    (hn : file'.users.length = file.users.length) :
    Alike (fun file file' ↦ (PasswordManager.htpasswd file).LooksLike (.htpasswd file'))
      (load w path) (load w' path) := by
  have hl := load_of_result_eq_ok h
  have hl' := load_of_result_eq_ok h'
  rw [hl, hl', hn]
  refine ⟨rfl, .value ⟨?_, rfl⟩⟩
  have hd (f : Htpasswd) : (PasswordManager.htpasswd f).describe = "PassManHtpasswd \x7b path: " ++
      Text.quotedName f.path ++ ", users: " ++ toString f.users.length ++ " \x7d" := rfl
  rw [hd, hd, path_of_load h, path_of_load h', hn]

end Htpasswd

namespace AuthOptions

/-- Selections with files of as many users have managers that look alike. -/
theorem manager?_alike {o : AuthOptions} {w w' : World} {given path : String}
    {file file' : Htpasswd} (hgiven : o.htpasswd = some given)
    (hexpand : w.expandUser given = .ok path) (hexpand' : w'.expandUser given = .ok path)
    (h : (Htpasswd.load w path).result = .ok file)
    (h' : (Htpasswd.load w' path).result = .ok file')
    (hn : file'.users.length = file.users.length) :
    Alike (Option.Rel PasswordManager.LooksLike) (o.manager? w) (o.manager? w') := by
  have hrefl (t : Traced (Option PasswordManager)) :
      Alike (Option.Rel PasswordManager.LooksLike) t t :=
    .refl (fun | none => .none | some m => .some (.refl m)) t
  rw [manager?, manager?]
  cases o.singleuserSpec with
  | some spec => exact hrefl _
  | none =>
    cases o.nonanonymous with
    | true => exact hrefl _
    | false =>
      cases hp : o.htpasswdPath with
      | none => exact hrefl _
      | some text =>
        rw [htpasswdPath, hgiven] at hp
        obtain rfl : given = text := (Option.filter_eq_some_iff.mp hp).1 |> Option.some.inj
        simp only [Bool.false_eq_true, ↓reduceIte, hexpand, hexpand', Traced.lift_ok_bind]
        exact (Htpasswd.load_alike h h' hn).bind fun file file' hf ↦ .pure (.some hf)

end AuthOptions

/-! ## Resolution -/

/-- Two runs that agree on everything that is read beside what authentication needs. -/
structure Config.AgreeElsewhere (w w' : World) (s : Settings) : Prop where
  clientcerts : clientCertDir w' s.clientcerts = clientCertDir w s.clientcerts
  specs : CertSpec.loadAll w' s.certs = CertSpec.loadAll w s.certs
  cadir : w'.absolute s.cadir = w.absolute s.cadir
  authority : ∀ dir, w.absolute s.cadir = .ok dir →
    CertStore.ofDir w' dir certBasename = CertStore.ofDir w dir certBasename
  entries : ∀ specs, CertSpec.loadAll w s.certs = .ok specs →
    ∀ store : CertStore, store.addAll w' specs = store.addAll w specs

/-- The end of a resolution reports the configuration and returns it. -/
theorem Config.resolved_alike {c d : Config} (h : c.LooksLike d) :
    Alike Config.LooksLike (⟨[c.resolvedEvent], .ok ()⟩ >>= fun _ ↦ return c)
      (⟨[d.resolvedEvent], .ok ()⟩ >>= fun _ ↦ return d) := by
  have he : d.resolvedEvent = c.resolvedEvent := by
    rw [h.elsewhere, resolvedEvent, resolvedEvent, h.authenticator.backend_eq]
  exact .step (by rw [he]) fun _ _ ↦ .pure h

/-- Runs that agree elsewhere resolve to configurations that look alike if their authenticators do.
-/
theorem Config.resolve_alike {w w' : World} {s : Settings} (spec : Option String)
    (h : AgreeElsewhere w w' s)
    (hv : ({ s with authSingleuser := spec } : Settings).validate = s.validate)
    (ha : Alike Authenticator.LooksLike (s.authOptions.select w)
      (({ s with authSingleuser := spec } : Settings).authOptions.select w'))
    (resolver : Option Resolver) :
    Alike Config.LooksLike (resolve w s resolver)
      (resolve w' { s with authSingleuser := spec } resolver) := by
  -- Both runs take every step alike; where they choose an authenticator, the choices look alike.
  refine .step hv fun _ _ ↦ .step rfl fun limit _ ↦ .step rfl fun mode _ ↦ ?_
  refine .step (by rw [h.clientcerts]) fun clientcerts _ ↦ ?_
  refine ha.bind fun a b hab ↦ .step (by rw [h.specs]) fun specs hspecs ↦ ?_
  refine .step rfl fun ignore _ ↦ .step rfl fun tcp _ ↦ ?_
  refine .step (by rw [h.cadir]) fun cadir hcadir ↦ ?_
  refine .step (by rw [h.authority cadir hcadir]) fun opened _ ↦ ?_
  refine .step (by rw [h.entries specs hspecs]) fun store _ ↦ .step rfl fun tls _ ↦ ?_
  exact resolved_alike ⟨rfl, hab⟩

/-! ## The check -/

namespace Check

/-- The report on a configuration shows what resolving shows. -/
theorem settingLines_eq_of_looksLike {c d : Config} (h : c.LooksLike d) :
    settingLines d = settingLines c := by
  rw [h.elsewhere, settingLines, settingLines, h.authenticator.backend_eq]
  rfl

/-- Checks are alike if what they resolve is. -/
theorem run_alike {w w' : World} {s : Settings} {spec : Option String}
    (h : Alike Config.LooksLike (Config.resolve w s (some .platform))
      (Config.resolve w' { s with authSingleuser := spec } (some .platform))) :
    Alike Config.LooksLike (run w s) (run w' { s with authSingleuser := spec }) := by
  refine .step rfl fun _ _ ↦ h.bind fun c d hcd ↦ ?_
  refine .step (by rw [settingLines_eq_of_looksLike hcd]) fun _ _ ↦ ?_
  refine .step rfl fun client _ ↦ .step rfl fun _ _ ↦ ?_
  refine .step rfl fun server _ ↦ .step rfl fun _ _ ↦ ?_
  have htls : d.tls = c.tls := by rw [hcd.elsewhere]
  exact .step (by rw [htls]) fun _ _ ↦ .step rfl fun _ _ ↦ .pure hcd

end Check

/-! ## Passwords -/

/-- The settings with a single user. -/
def Settings.withUser (s : Settings) (user password : String) : Settings :=
  { s with authSingleuser := some (user ++ ":" ++ password) }

/-- Two situations that differ only in passwords: in the password of the single user, or in the
content of a file that is loaded for its users and that no certificate is read from. -/
inductive DifferInPasswords : World → Settings → World → Settings → Prop
  | singleUser {w : World} {s : Settings} {user p q : String} (huser : ':' ∉ user.toList)
    (hp : ':' ∉ p.toList) (hq : ':' ∉ q.toList) :
    DifferInPasswords w (s.withUser user p) w (s.withUser user q)
  | credentialFile {w w' : World} {s : Settings} {place : Place} {given path : String}
    {file file' : Htpasswd} (hworlds : World.SameBut place w w')
    (hgiven : s.authHtpasswd = some given) (hexpand : w.expandUser given = .ok path)
    (hload : (Htpasswd.load w path).result = .ok file)
    (hload' : (Htpasswd.load w' path).result = .ok file')
    (husers : file'.users.length = file.users.length)
    (hspecs : ∀ text ∈ s.certs, ∀ spec, CertSpec.parse w text = .ok spec →
      ¬w.LeadsTo spec.path place)
    (hauthority : ∀ dir, w.absolute s.cadir = .ok dir →
      ¬w.LeadsTo (CertStore.caPath dir Config.certBasename) place) :
    DifferInPasswords w s w' s

/-- Which options ask for authentication does not depend on the password of the single user. -/
theorem Settings.validate_withUser (s : Settings) (user p q : String) :
    (s.withUser user q).validate = (s.withUser user p).validate := by
  have hs (p : String) : (s.withUser user p).authOptions.singleuserSpec =
      some (user ++ ":" ++ p) := AuthOptions.singleuserSpec_of_user rfl
  simp only [validate, AuthOptions.requested, hs]
  rfl

/-- Specifications that load come from texts that denote them. -/
theorem CertSpec.exists_parse_of_loadAll {w : World} {texts : List String} {specs : List CertSpec}
    (h : loadAll w texts = .ok specs) {spec : CertSpec} (hs : spec ∈ specs) :
    ∃ text ∈ texts, parse w text = .ok spec := by
  obtain ⟨text, ht, hl⟩ := exists_of_forall₂_right (mapM_eq_ok_iff.mp h) hs
  exact ⟨text, ht, parse_of_load hl⟩

/-- Worlds that differ in a file that only authentication reads agree elsewhere. -/
theorem Config.AgreeElsewhere.of_sameBut {w w' : World} {s : Settings} {place : Place}
    (h : World.SameBut place w w')
    (hspecs : ∀ text ∈ s.certs, ∀ spec, CertSpec.parse w text = .ok spec →
      ¬w.LeadsTo spec.path place)
    (hauthority : ∀ dir, w.absolute s.cadir = .ok dir →
      ¬w.LeadsTo (CertStore.caPath dir certBasename) place) :
    AgreeElsewhere w w' s where
  clientcerts := clientCertDir_eq h s.clientcerts
  specs := CertSpec.loadAll_eq h s.certs
  cadir := h.absolute_eq s.cadir
  authority dir hd := CertStore.ofDir_eq h (hauthority dir hd)
  entries specs hl store := by
    refine CertStore.addAll_eq h store fun spec hs ↦ ?_
    obtain ⟨text, ht, hp⟩ := CertSpec.exists_parse_of_loadAll hl hs
    exact hspecs text ht spec hp

/-- Checks and selections in situations that differ only in passwords are alike: the same events and
the same refusal, or configurations whose authenticators look alike and that are the same otherwise.
-/
theorem Check.hides_passwords {w w' : World} {s s' : Settings} (h : DifferInPasswords w s w' s') :
    Alike Config.LooksLike (run w s) (run w' s') ∧
      Alike Authenticator.LooksLike (s.authOptions.select w) (s'.authOptions.select w') := by
  cases h with
  | @singleUser s user p q huser hp hq =>
    have ha : Alike Authenticator.LooksLike ((s.withUser user p).authOptions.select w)
        ((s.withUser user q).authOptions.select w) := by
      refine AuthOptions.select_alike ?_
      rw [AuthOptions.manager?_of_user rfl huser hp, AuthOptions.manager?_of_user rfl huser hq]
      exact .pure (.some ⟨rfl, rfl⟩)
    have hr := Config.resolve_alike (s := s.withUser user p) (some (user ++ ":" ++ q))
      ⟨rfl, rfl, rfl, fun _ _ ↦ rfl, fun _ _ _ ↦ rfl⟩ (Settings.validate_withUser s user p q) ha
    exact ⟨run_alike (hr _), ha⟩
  | credentialFile hworlds hgiven hexpand hload hload' husers hspecs hauthority =>
    have ha := AuthOptions.select_alike (AuthOptions.manager?_alike (o := s.authOptions) hgiven
      hexpand ((hworlds.expandUser_eq _).trans hexpand) hload hload' husers)
    have hr := Config.resolve_alike s.authSingleuser
      (.of_sameBut hworlds hspecs hauthority) rfl ha
    exact ⟨run_alike (hr _), ha⟩

namespace Htpasswd

/-- A world with a file of credentials for one user. -/
def oneUserWorld (password : String) : World :=
  ⟨[(["users"], .file (Utf8.encode ("alice:" ++ password)))], .ok "/", some "/", []⟩

/-- A password that looks like no hash is kept as it is. -/
private theorem load_oneUserWorld {password : String}
    (hl : Text.lines ("alice:" ++ password) = ["alice:" ++ password])
    (hs : isSkipped (Text.trim ("alice:" ++ password)) = false)
    (hp : parseLine (Text.trim ("alice:" ++ password)) = .ok ("alice", .plain, password)) :
    (load (oneUserWorld password) "/users").result =
      .ok ⟨"/users", [("alice", .plain, password)]⟩ := by
  have hf : (oneUserWorld password).find "/users" =
      .ok (.file (Utf8.encode ("alice:" ++ password))) :=
    World.find_file_of_root ⟨rfl, rfl, by decide⟩ rfl (by decide) rfl
  refine load_of_text hf ?_
  rw [hl]
  exact parseLines_cons hs hp rfl

end Htpasswd

/-- Two passwords of a single user, and two files with a password for one user each. -/
theorem Check.hides_passwords_sample :
    let s : Settings := { Settings.default with authHtpasswd := some "/users" }
    Alike Config.LooksLike (run (Htpasswd.oneUserWorld "spring") s)
      (run (Htpasswd.oneUserWorld "autumn") s) ∧
    Alike Config.LooksLike
      (run (Htpasswd.oneUserWorld "") (Settings.default.withUser "alice" "spring"))
      (run (Htpasswd.oneUserWorld "") (Settings.default.withUser "alice" "")) := by
  intro s
  refine ⟨(hides_passwords ?_).1,
    (hides_passwords (.singleUser (by decide) (by decide) (by decide))).1⟩
  have hworlds : World.SameBut ["users"] (Htpasswd.oneUserWorld "spring")
      (Htpasswd.oneUserWorld "autumn") := by
    refine ⟨rfl, rfl, rfl, fun other ho ↦ ?_, ⟨_, rfl⟩, ⟨_, rfl⟩⟩
    have hb : (other == ["users"]) = false := beq_false_of_ne ho
    simp only [World.entryAt?, Htpasswd.oneUserWorld, List.lookup_cons, hb]
  have hauthority (dir : String)
      (hd : (Htpasswd.oneUserWorld "spring").absolute s.cadir = .ok dir) :
      ¬World.LeadsTo (Htpasswd.oneUserWorld "spring") (CertStore.caPath dir Config.certBasename)
        ["users"] := by
    have ha : (Htpasswd.oneUserWorld "spring").absolute s.cadir = .ok "/.mitmproxy" := by
      decide +kernel
    obtain rfl : "/.mitmproxy" = dir := Except.ok.inj (ha.symm.trans hd)
    have hp : CertStore.caPath "/.mitmproxy" Config.certBasename =
        "/.mitmproxy/mitmproxy-ca.pem" := by decide +kernel
    have hc : World.components "/.mitmproxy/mitmproxy-ca.pem" =
        ["", ".mitmproxy", "mitmproxy-ca.pem"] := rfl
    rintro ⟨entry, hl⟩
    rw [hp, World.locate_of_rooted ⟨rfl, rfl, by decide⟩, hc, World.walk_empty,
      World.walk_missing (by decide) rfl] at hl
    cases hl
  exact .credentialFile hworlds rfl rfl (Htpasswd.load_oneUserWorld rfl rfl rfl)
    (Htpasswd.load_oneUserWorld rfl rfl rfl) rfl (fun _ h ↦ absurd h List.not_mem_nil) hauthority

end ProxySettings
