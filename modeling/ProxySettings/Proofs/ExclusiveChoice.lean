import ProxySettings.Proofs.Resolution
import ProxySettings.Proofs.SelectionOrder
import ProxySettings.Settings.Load

/-!
# Exclusive choices

Validation, the choice of a mode, the choice of an authenticator and loading all decide which
options are set. They agree: settings are valid exactly if no two modes and no two ways to
authenticate are asked for, and what is chosen then is the one that is asked for.
-/

namespace ProxySettings

/-! ## What is asked for -/

/-- The options for modes. -/
def Flag.modes : List Flag := [transparent, socks, reverse, upstream]

/-- The options for ways to authenticate. -/
def Flag.authentications : List Flag := [nonanonymous, singleuser, htpasswd]

/-- The option that asks for a kind of mode. -/
def ModeKind.flag? : ModeKind → Option Flag
  | regular => none
  | transparent => some .transparent
  | socks5 => some .socks
  | reverse => some .reverse
  | upstream => some .upstream

namespace Settings

/-- Settings ask for an option: it is switched on, or it has a text that is not empty. -/
def Asks (s : Settings) : Flag → Prop
  | .transparent => s.transparentProxy = true
  | .socks => s.socksProxy = true
  | .reverse => ∃ t, s.reverseProxy = some t ∧ t ≠ ""
  | .upstream => ∃ t, s.upstreamProxy = some t ∧ t ≠ ""
  | .nonanonymous => s.authNonanonymous = true
  | .singleuser => ∃ t, s.authSingleuser = some t ∧ t ≠ ""
  | .htpasswd => ∃ t, s.authHtpasswd = some t ∧ t ≠ ""

/-- Settings ask for two options of a group. -/
def HasConflict (s : Settings) (group : List Flag) : Prop :=
  ∃ a ∈ group, ∃ b ∈ group, a ≠ b ∧ s.Asks a ∧ s.Asks b

end Settings

theorem isSome_nonEmpty_iff {text : Option String} :
    (nonEmpty text).isSome = true ↔ ∃ t, text = some t ∧ t ≠ "" := by
  cases text with
  | none => simp [nonEmpty]
  | some t => by_cases h : t = "" <;> simp [nonEmpty, h]

instance decidableGiven (text : Option String) : Decidable (∃ t, text = some t ∧ t ≠ "") :=
  decidable_of_iff _ isSome_nonEmpty_iff

namespace ModeOptions

/-- Options ask for a mode: it is switched on, or it has a target that is not empty. -/
def Asks (o : ModeOptions) : Flag → Prop
  | .transparent => o.transparent = true
  | .socks => o.socks5 = true
  | .reverse => ∃ t, o.reverse = some t ∧ t ≠ ""
  | .upstream => ∃ t, o.upstream = some t ∧ t ≠ ""
  | _ => False

instance (o : ModeOptions) : DecidablePred o.Asks
  | .transparent => inferInstanceAs (Decidable (o.transparent = true))
  | .socks => inferInstanceAs (Decidable (o.socks5 = true))
  | .reverse => inferInstanceAs (Decidable (∃ t, o.reverse = some t ∧ t ≠ ""))
  | .upstream => inferInstanceAs (Decidable (∃ t, o.upstream = some t ∧ t ≠ ""))
  | .nonanonymous | .singleuser | .htpasswd => .isFalse id

/-- The modes that options ask for, in the order of the group. -/
def asked (o : ModeOptions) : List Flag := Flag.modes.filter (o.Asks ·)

theorem requested_eq_asked (o : ModeOptions) : o.requested = o.asked := by
  have hr : o.Asks .reverse ↔ o.reverseTarget.isSome = true := isSome_nonEmpty_iff.symm
  have hu : o.Asks .upstream ↔ o.upstreamTarget.isSome = true := isSome_nonEmpty_iff.symm
  have ht : o.Asks .transparent ↔ o.transparent = true := Iff.rfl
  have hs : o.Asks .socks ↔ o.socks5 = true := Iff.rfl
  simp only [requested, asked, Flag.modes, List.filter_cons, List.filter_nil, hr, hu, ht, hs,
    Bool.decide_eq_true]
  cases o.transparent <;> cases o.socks5 <;> cases o.reverseTarget.isSome <;>
    cases o.upstreamTarget.isSome <;> rfl

end ModeOptions

instance (s : Settings) : DecidablePred s.Asks
  | .transparent => inferInstanceAs (Decidable (s.transparentProxy = true))
  | .socks => inferInstanceAs (Decidable (s.socksProxy = true))
  | .reverse => inferInstanceAs (Decidable (∃ t, s.reverseProxy = some t ∧ t ≠ ""))
  | .upstream => inferInstanceAs (Decidable (∃ t, s.upstreamProxy = some t ∧ t ≠ ""))
  | .nonanonymous => inferInstanceAs (Decidable (s.authNonanonymous = true))
  | .singleuser => inferInstanceAs (Decidable (∃ t, s.authSingleuser = some t ∧ t ≠ ""))
  | .htpasswd => inferInstanceAs (Decidable (∃ t, s.authHtpasswd = some t ∧ t ≠ ""))

namespace Settings

/-- The options of a group that settings ask for, in the order of the group. -/
def asked (s : Settings) (group : List Flag) : List Flag := group.filter (s.Asks ·)

variable {s : Settings}

theorem requested_modeOptions (s : Settings) : s.modeOptions.requested = s.asked Flag.modes := by
  rw [ModeOptions.requested_eq_asked, ModeOptions.asked, asked]
  apply List.filter_congr
  simp only [Flag.modes, List.forall_mem_cons, decide_eq_decide]
  exact ⟨Iff.rfl, Iff.rfl, Iff.rfl, Iff.rfl, List.forall_mem_nil _⟩

theorem requested_authOptions (s : Settings) :
    s.authOptions.requested = s.asked Flag.authentications := by
  have hs : s.Asks .singleuser ↔ s.authOptions.singleuserSpec.isSome = true :=
    isSome_nonEmpty_iff.symm
  have hp : s.Asks .htpasswd ↔ s.authOptions.htpasswdPath.isSome = true :=
    isSome_nonEmpty_iff.symm
  have hn : s.Asks .nonanonymous ↔ s.authOptions.nonanonymous = true := Iff.rfl
  simp only [AuthOptions.requested, asked, Flag.authentications, List.filter_cons, List.filter_nil,
    hs, hp, hn, Bool.decide_eq_true]
  cases s.authOptions.nonanonymous <;> cases s.authOptions.singleuserSpec.isSome <;>
    cases s.authOptions.htpasswdPath.isSome <;> rfl

/-- A list without duplicates has two items exactly if it is longer than one. -/
theorem one_lt_length_iff {l : List Flag} (hn : l.Nodup) :
    1 < l.length ↔ ∃ a ∈ l, ∃ b ∈ l, a ≠ b := by
  constructor
  · intro h
    match l with
    | a :: b :: rest =>
      rw [List.nodup_cons] at hn
      exact ⟨a, List.mem_cons_self, b, List.mem_cons_of_mem a List.mem_cons_self,
        fun he ↦ hn.1 (he ▸ List.mem_cons_self)⟩
  · rintro ⟨a, ha, b, hb, hne⟩
    rw [← Nat.not_le]
    exact fun hl ↦ hne (eq_of_mem_of_length_le_one hl ha hb)

/-- Two options of a group are asked for exactly if more than one is. -/
theorem hasConflict_iff {group : List Flag} (hn : group.Nodup) :
    s.HasConflict group ↔ 1 < (s.asked group).length := by
  rw [asked, one_lt_length_iff (hn.filter _), HasConflict]
  simp only [List.mem_filter, decide_eq_true_eq]
  constructor
  · rintro ⟨a, ha, b, hb, hne, hsa, hsb⟩
    exact ⟨a, ⟨ha, hsa⟩, b, ⟨hb, hsb⟩, hne⟩
  · rintro ⟨a, ⟨ha, hsa⟩, b, ⟨hb, hsb⟩, hne⟩
    exact ⟨a, ha, b, hb, hne, hsa, hsb⟩

/-! ## Validation -/

theorem result_validateFlags (requested : List Flag) : (validateFlags requested).result =
    if 1 < requested.length then .error (.mutuallyExclusive requested) else .ok () := by
  rw [validateFlags]
  split <;> rfl

/-- Validation refuses the first group of which more than one option is asked for. -/
theorem result_validate (s : Settings) : s.validate.result =
    if 1 < (s.asked Flag.modes).length then .error (.mutuallyExclusive (s.asked Flag.modes))
    else if 1 < (s.asked Flag.authentications).length then
      .error (.mutuallyExclusive (s.asked Flag.authentications))
    else .ok () := by
  rw [validate, Traced.result_bind, requested_modeOptions, requested_authOptions,
    result_validateFlags, result_validateFlags]
  split <;> rfl

/-- Validation succeeds exactly if each group has at most one option that is asked for. -/
theorem validate_eq_ok_iff : s.validate.result = .ok () ↔
    (s.asked Flag.modes).length ≤ 1 ∧ (s.asked Flag.authentications).length ≤ 1 := by
  rw [result_validate, ← Nat.not_lt, ← Nat.not_lt]
  split
  · next h => simp [h]
  · next h =>
    split
    · next h' => simp [h']
    · next h' => simp [h, h']

end Settings

/-! ## What is chosen -/

namespace ModeOptions

variable {o : ModeOptions} {resolver : Option Resolver}

/-- A single request is that of the kind that is chosen. -/
theorem requested_eq_of_length_le_one (h : o.requested.length ≤ 1) :
    o.requested = o.kind.flag?.toList := by
  revert h
  rw [requested, kind]
  cases o.transparent <;> cases o.socks5 <;> cases o.reverseTarget.isSome <;>
    cases o.upstreamTarget.isSome <;> decide

theorem kind_of_build {forms : HttpForms} {mode : ProxyMode}
    (h : o.build resolver forms = .ok mode) : mode.kind = o.kind := by
  unfold build at h
  split at h
  · next hk =>
    rw [← Except.ok.inj h, hk]
    rfl
  · next hk =>
    split at h
    · rw [← Except.ok.inj h, hk]
      rfl
    · cases h
  · next hk =>
    rw [← Except.ok.inj h, hk]
    rfl
  · next hk =>
    obtain ⟨server, -, rfl⟩ := exists_of_map_eq_ok h
    rw [hk]
    rfl
  · next hk =>
    obtain ⟨server, -, rfl⟩ := exists_of_map_eq_ok h
    rw [hk]
    rfl

/-- A chosen mode went through its forms and was built for them. -/
theorem exists_build_of_resolve {mode : ProxyMode}
    (h : (o.resolve resolver).result = .ok mode) : ∃ forms, o.build resolver forms = .ok mode := by
  rw [resolve] at h
  split at h
  · cases h
  · simp only [Traced.result_bind, Traced.result_lift, Traced.result_log] at h
    obtain ⟨incoming, -, h⟩ := exists_of_bind_eq_ok h
    obtain ⟨outgoing, -, h⟩ := exists_of_bind_eq_ok h
    obtain ⟨built, hb, h⟩ := exists_of_bind_eq_ok h
    obtain rfl := Except.ok.inj h
    exact ⟨_, hb⟩

theorem resolve_eq_refuse (h : 1 < o.requested.length) :
    o.resolve resolver = Traced.refuse (.mutuallyExclusive o.requested) := by
  rw [resolve, if_pos h]
  rfl

theorem resolve_of_conflict (h : 1 < o.requested.length) (resolver : Option Resolver) :
    (o.resolve resolver).result = .error (.mutuallyExclusive o.requested) := by
  rw [resolve_eq_refuse h]
  rfl

/-- Choosing among at most one request never refuses for more than one. -/
theorem resolve_ne_mutuallyExclusive (h : o.requested.length ≤ 1) (flags : List Flag) :
    (o.resolve resolver).result ≠ .error (.mutuallyExclusive flags) := by
  have form (w : World) (text : Option String) :
      Requirement.fault? w (.form text) ≠ some (.mutuallyExclusive flags) := by
    intro hf
    obtain ⟨t, -, ht⟩ := Option.bind_eq_some_iff.mp hf
    cases eq_of_refuseUnless_eq_some ht
  have server (w : World) (text : Option String) :
      Requirement.fault? w (.server text) ≠ some (.mutuallyExclusive flags) := by
    intro hf
    obtain ⟨t, -, ht⟩ := Option.bind_eq_some_iff.mp hf
    rw [ServerSpec.parse] at ht
    split at ht <;> cases ht
  let w : World := ⟨[], .ok "/", some "/", []⟩
  intro he
  obtain ⟨before, q, after, hr, hq, -⟩ := (refused_resolve h w resolver).error_iff.mp he
  have hm : q ∈ o.requirements resolver := by
    rw [hr]
    exact List.mem_append_right before List.mem_cons_self
  simp only [requirements, List.mem_cons, List.not_mem_nil, or_false] at hm
  rcases hm with rfl | rfl | rfl | rfl | rfl
  · exact form w _ hq
  · exact form w _ hq
  · cases eq_of_refuseUnless_eq_some hq
  · exact server w _ hq
  · exact server w _ hq

end ModeOptions

/-- A single request is that of the way that decides. -/
theorem AuthOptions.requested_eq_of_length_le_one {o : AuthOptions}
    (h : o.requested.length ≤ 1) : o.requested = o.deciding.flag?.toList := by
  revert h
  rw [requested, deciding]
  cases o.nonanonymous <;> cases o.singleuserSpec.isSome <;> cases o.htpasswdPath.isSome <;> decide

/-! ## Loading -/

namespace Settings

/-- Settings are validated before they leave a file. -/
theorem validate_of_ofLayers {layers : List Layer} {s : Settings}
    (h : (ofLayers layers).result = .ok s) : s.validate.result = .ok () := by
  rw [ofLayers] at h
  split at h
  · cases h
  · rw [Traced.result_bind] at h
    obtain ⟨⟨⟩, hv, h⟩ := exists_of_bind_eq_ok h
    rwa [← Except.ok.inj h]

theorem validate_of_load {w : World} {path : String} {s : Settings}
    (h : (load w path).result = .ok s) : s.validate.result = .ok () := by
  rw [load] at h
  split at h
  · cases h
  · cases h
  · rw [Traced.result_bind] at h
    obtain ⟨layer, -, h⟩ := exists_of_bind_eq_ok h
    exact validate_of_ofLayers h

theorem validate_of_loadDefault {w : World} {s : Settings}
    (h : (loadDefault w).result = .ok s) : s.validate.result = .ok () := by
  rw [loadDefault, Traced.result_bind] at h
  obtain ⟨layers, -, h⟩ := exists_of_bind_eq_ok h
  exact validate_of_ofLayers h

/-- Validation fails exactly if two options of a group are asked for, and it lists what is asked for
in the first such group; for modes, choosing one fails in the same way. After validation the mode
and the authenticator are those of the options that are asked for, in whatever order the ways to
authenticate are tried. Settings that are loaded are valid. -/
theorem exclusive_choices_agree (s : Settings) :
    ((∃ e, s.validate.result = .error e) ↔
      s.HasConflict Flag.modes ∨ s.HasConflict Flag.authentications) ∧
    (s.HasConflict Flag.modes →
      s.validate.result = .error (.mutuallyExclusive (s.asked Flag.modes)) ∧
      ∀ resolver, (s.modeOptions.resolve resolver).result =
        .error (.mutuallyExclusive (s.asked Flag.modes))) ∧
    (¬s.HasConflict Flag.modes → s.HasConflict Flag.authentications →
      s.validate.result = .error (.mutuallyExclusive (s.asked Flag.authentications))) ∧
    (s.validate.result = .ok () →
      (∀ resolver flags,
        (s.modeOptions.resolve resolver).result ≠ .error (.mutuallyExclusive flags)) ∧
      (∀ resolver mode, (s.modeOptions.resolve resolver).result = .ok mode →
        s.asked Flag.modes = mode.kind.flag?.toList) ∧
      (∀ order : List AuthBackend, order.Perm AuthBackend.precedence → ∀ w,
        s.authOptions.selectIn order w = s.authOptions.select w) ∧
      ∀ w a, (s.authOptions.select w).result = .ok a →
        s.asked Flag.authentications = a.backend.flag?.toList) ∧
    (∀ w, s.authOptions.select w = s.authOptions.selectIn AuthBackend.precedence w) ∧
    ∀ w, (∀ path, (load w path).result = .ok s → s.validate.result = .ok ()) ∧
      ((loadDefault w).result = .ok s → s.validate.result = .ok ()) := by
  have hm : s.HasConflict Flag.modes ↔ 1 < (s.asked Flag.modes).length :=
    hasConflict_iff (by decide)
  have ha : s.HasConflict Flag.authentications ↔ 1 < (s.asked Flag.authentications).length :=
    hasConflict_iff (by decide)
  refine ⟨?_, fun hc ↦ ⟨?_, fun resolver ↦ ?_⟩, fun hn hc ↦ ?_, fun hv ↦ ?_,
    fun w ↦ AuthOptions.select_eq_selectIn _ w,
    fun w ↦ ⟨fun path h ↦ validate_of_load h, fun h ↦ validate_of_loadDefault h⟩⟩
  · rw [hm, ha, result_validate]
    split
    · next h => simp [h]
    · next h =>
      split
      · next h' => simp [h']
      · next h' => simp [h, h']
  · rw [result_validate, if_pos (hm.mp hc)]
  · rw [← requested_modeOptions]
    exact ModeOptions.resolve_of_conflict (by rwa [requested_modeOptions, ← hm]) resolver
  · rw [result_validate, if_neg ((not_congr hm).mp hn), if_pos (ha.mp hc)]
  · obtain ⟨hmodes, hauths⟩ := validate_eq_ok_iff.mp hv
    rw [← requested_modeOptions] at hmodes ⊢
    rw [← requested_authOptions] at hauths ⊢
    refine ⟨fun resolver flags ↦ ModeOptions.resolve_ne_mutuallyExclusive hmodes flags,
      fun resolver mode h ↦ ?_, fun order hp w ↦ AuthOptions.selectIn_eq_of_perm hauths hp,
      fun w a h ↦ ?_⟩
    · obtain ⟨forms, hb⟩ := ModeOptions.exists_build_of_resolve h
      rw [ModeOptions.kind_of_build hb, ModeOptions.requested_eq_of_length_le_one hmodes]
    · rw [AuthOptions.backend_of_select h, AuthOptions.requested_eq_of_length_le_one hauths]

end Settings

end ProxySettings
