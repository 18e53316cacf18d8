import ProxySettings.Auth.Options
import ProxySettings.Proofs.Refusal

/-!
# The authenticator that is selected

The first way that is asked for decides alone: what its manager needs is read, and no other way
takes its place. The authenticator is the manager's, with the challenge of the realm.
-/

namespace ProxySettings

/-- The authenticator of a manager, if there is one. -/
def Authenticator.ofManager? : Option PasswordManager → Authenticator
  | none => .disabled
  | some manager => .basic ⟨manager, Utf8.encode (BasicAuth.challengeText AuthOptions.realm)⟩

/-- The challenge of the realm is allowed as a value. -/
theorem BasicAuth.ofRealm_realm (manager : PasswordManager) :
    ofRealm manager AuthOptions.realm =
      .ok ⟨manager, Utf8.encode (challengeText AuthOptions.realm)⟩ := by
  rw [ofRealm]
  exact if_pos (by decide)

/-- A file of credentials is its text, read line by line. -/
theorem Htpasswd.result_load (w : World) (path : String) :
    (load w path).result = readText w path >>= fun text ↦
      ((parseLines 1 (Text.lines text)).map (Htpasswd.mk path)).mapError .credentials := by
  rw [load, Traced.result_bind]
  congr 1
  funext text
  cases parseLines 1 (Text.lines text) with
  | error fault => rfl
  | ok entries => rfl

/-- A file that is loaded keeps its path. -/
theorem Htpasswd.path_of_load {w : World} {path : String} {file : Htpasswd}
    (h : (load w path).result = .ok file) : file.path = path := by
  rw [result_load] at h
  obtain ⟨text, -, h⟩ := exists_of_bind_eq_ok h
  cases hp : parseLines 1 (Text.lines text) with
  | error fault =>
    rw [hp] at h
    cases h
  | ok entries =>
    rw [hp] at h
    exact congrArg Htpasswd.path (Except.ok.inj h).symm

/-- The file of credentials that a text names. -/
def Htpasswd.loadNamed (w : World) (text : String) : Except ConfigError Htpasswd := do
  (load w (← w.expandUser text)).result

theorem Htpasswd.loadNamed_eq_ok_iff {w : World} {text : String} {file : Htpasswd} :
    loadNamed w text = .ok file ↔
      ∃ path, w.expandUser text = .ok path ∧ (load w path).result = .ok file := by
  constructor
  · exact exists_of_bind_eq_ok
  · rintro ⟨path, hp, hl⟩
    rwa [loadNamed, hp]

namespace AuthOptions

/-- Selection fails only where the manager does. -/
theorem result_select (o : AuthOptions) (w : World) :
    (o.select w).result = (o.manager? w).result.map Authenticator.ofManager? := by
  rw [select, Traced.result_bind]
  cases (o.manager? w).result with
  | error e => rfl
  | ok manager =>
    cases manager with
    | none => rfl
    | some manager =>
      simp only [bind, Except.bind, BasicAuth.ofRealm_realm]
      rfl

section

variable {o : AuthOptions} {w : World}

/-- A single user comes before everything else. -/
theorem manager?_of_singleuser {spec : String} (h : o.singleuserSpec = some spec) :
    (o.manager? w).result = (SingleUser.parse spec).map fun known ↦ some (.singleUser known) := by
  rw [manager?, h]
  cases hp : SingleUser.parse spec <;> simp only [hp] <;> rfl

theorem manager?_of_nonanonymous (h : o.singleuserSpec = none) (hn : o.nonanonymous = true) :
    (o.manager? w).result = .ok (some .nonAnonymous) := by
  rw [manager?, h]
  simp only [hn]
  rfl

/-- A file counts when neither a single user nor any named user will do. -/
theorem manager?_of_htpasswd {path : String} (h : o.singleuserSpec = none)
    (hn : o.nonanonymous = false) (hp : o.htpasswdPath = some path) :
    (o.manager? w).result = (Htpasswd.loadNamed w path).map fun file ↦
      some (.htpasswd file) := by
  rw [manager?, h, Htpasswd.loadNamed]
  simp only [hn, hp, Bool.false_eq_true, ↓reduceIte, Traced.result_bind, Traced.result_lift]
  cases w.expandUser path with
  | error e => rfl
  | ok path =>
    simp only [bind, Except.bind]
    cases (Htpasswd.load w path).result <;> rfl

theorem manager?_of_none (h : o.singleuserSpec = none) (hn : o.nonanonymous = false)
    (hp : o.htpasswdPath = none) : (o.manager? w).result = .ok none := by
  rw [manager?, h]
  simp only [hn, hp, Bool.false_eq_true, ↓reduceIte]
  rfl

end

end AuthOptions

end ProxySettings
