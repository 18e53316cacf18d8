import ProxySettings.Check

/-!
# Empty texts

An option with an empty text is an option that is not given. Settings that agree but for empty texts
ask for the same, resolve to the same configuration and are reported in the same way.
-/

namespace ProxySettings

/-! ## Options -/

namespace ModeOptions

/-- Options that choose a mode and agree but for empty texts. -/
structure Agree (o o' : ModeOptions) : Prop where
  transparent_eq : o'.transparent = o.transparent
  socks5_eq : o'.socks5 = o.socks5
  reverse_eq : nonEmpty o'.reverse = nonEmpty o.reverse
  upstream_eq : nonEmpty o'.upstream = nonEmpty o.upstream
  httpFormIn_eq : nonEmpty o'.httpFormIn = nonEmpty o.httpFormIn
  httpFormOut_eq : nonEmpty o'.httpFormOut = nonEmpty o.httpFormOut
  sslPorts_eq : o'.sslPorts = o.sslPorts

theorem formOverride_congr {text text' : Option String} (h : nonEmpty text' = nonEmpty text) :
    formOverride text' = formOverride text := by
  rw [formOverride, formOverride, h]

namespace Agree

variable {o o' : ModeOptions}

theorem reverseTarget_eq (h : o.Agree o') : o'.reverseTarget = o.reverseTarget := h.reverse_eq

theorem upstreamTarget_eq (h : o.Agree o') : o'.upstreamTarget = o.upstreamTarget := h.upstream_eq

theorem requested_eq (h : o.Agree o') : o'.requested = o.requested := by
  rw [requested, requested, h.transparent_eq, h.socks5_eq, h.reverseTarget_eq, h.upstreamTarget_eq]

theorem kind_eq (h : o.Agree o') : o'.kind = o.kind := by
  rw [kind, kind, h.transparent_eq, h.socks5_eq, h.reverseTarget_eq, h.upstreamTarget_eq]

theorem build_eq (h : o.Agree o') (resolver : Option Resolver) (forms : HttpForms) :
    o'.build resolver forms = o.build resolver forms := by
  unfold build
  rw [h.kind_eq, h.reverseTarget_eq, h.upstreamTarget_eq, h.sslPorts_eq]

/-- Options that agree choose the same mode and report it in the same way. -/
theorem resolve_eq (h : o.Agree o') (resolver : Option Resolver) :
    o'.resolve resolver = o.resolve resolver := by
  simp only [resolve, h.requested_eq, h.kind_eq, h.build_eq, formOverride_congr h.httpFormIn_eq,
    formOverride_congr h.httpFormOut_eq]

end Agree

end ModeOptions

namespace AuthOptions

/-- Options that ask for authentication and agree but for empty texts. -/
structure Agree (o o' : AuthOptions) : Prop where
  nonanonymous_eq : o'.nonanonymous = o.nonanonymous
  singleuser_eq : nonEmpty o'.singleuser = nonEmpty o.singleuser
  htpasswd_eq : nonEmpty o'.htpasswd = nonEmpty o.htpasswd

namespace Agree

variable {o o' : AuthOptions}

theorem singleuserSpec_eq (h : o.Agree o') : o'.singleuserSpec = o.singleuserSpec :=
  h.singleuser_eq

theorem htpasswdPath_eq (h : o.Agree o') : o'.htpasswdPath = o.htpasswdPath := h.htpasswd_eq

theorem requested_eq (h : o.Agree o') : o'.requested = o.requested := by
  rw [requested, requested, h.nonanonymous_eq, h.singleuserSpec_eq, h.htpasswdPath_eq]

theorem manager?_eq (h : o.Agree o') (w : World) : o'.manager? w = o.manager? w := by
  rw [manager?, manager?, h.nonanonymous_eq, h.singleuserSpec_eq, h.htpasswdPath_eq]

/-- Options that agree choose the same authenticator and report it in the same way. -/
theorem select_eq (h : o.Agree o') (w : World) : o'.select w = o.select w := by
  rw [select, select, h.manager?_eq]

end Agree

end AuthOptions

/-- An empty text sets no limit. -/
theorem Config.sizeLimit_nonEmpty (text : Option String) :
    sizeLimit (nonEmpty text) = sizeLimit text := by
  cases text with
  | none => rfl
  | some t =>
    by_cases ht : t = ""
    · subst ht
      rfl
    · rw [nonEmpty, Option.filter_some, if_pos (decide_eq_true ht)]

/-! ## Settings -/

namespace Settings

/-- Settings that agree but for empty texts. -/
structure Agree (s s' : Settings) : Prop where
  modes : s.modeOptions.Agree s'.modeOptions
  authentication : s.authOptions.Agree s'.authOptions
  bodySizeLimit_eq : nonEmpty s'.bodySizeLimit = nonEmpty s.bodySizeLimit
  elsewhere : s' = { s with
    bodySizeLimit := s'.bodySizeLimit
    reverseProxy := s'.reverseProxy
    upstreamProxy := s'.upstreamProxy
    httpFormIn := s'.httpFormIn
    httpFormOut := s'.httpFormOut
    authSingleuser := s'.authSingleuser
    authHtpasswd := s'.authHtpasswd }

namespace Agree

variable {s s' : Settings}

theorem validate_eq (h : s.Agree s') : s'.validate = s.validate := by
  rw [validate, validate, h.modes.requested_eq, h.authentication.requested_eq]

theorem sizeLimit_eq (h : s.Agree s') :
    Config.sizeLimit s'.bodySizeLimit = Config.sizeLimit s.bodySizeLimit := by
  rw [← Config.sizeLimit_nonEmpty, h.bodySizeLimit_eq, Config.sizeLimit_nonEmpty]

/-- Settings that agree resolve to the same configuration, step by step. -/
theorem resolve_eq (h : s.Agree s') (w : World) (resolver : Option Resolver) :
    Config.resolve w s' resolver = Config.resolve w s resolver := by
  rw [Config.resolve, Config.resolve, h.validate_eq, h.sizeLimit_eq, h.modes.resolve_eq,
    h.authentication.select_eq]
  -- What is left of the settings are the fields without texts that may be empty.
  rw [h.elsewhere]

/-- Settings that agree are checked with the same report. -/
theorem run_eq (h : s.Agree s') (w : World) : Check.run w s' = Check.run w s := by
  rw [Check.run, Check.run, h.resolve_eq, h.elsewhere]

end Agree

/-! ## Leaving out empty texts -/

/-- A text, or none if it is empty and dropped. -/
def keep (isDropped : Bool) (text : Option String) : Option String :=
  if isDropped ∧ text = some "" then none else text

theorem nonEmpty_keep (isDropped : Bool) (text : Option String) :
    nonEmpty (keep isDropped text) = nonEmpty text := by
  rw [keep]
  split
  next h =>
    rw [h.2]
    rfl
  next => rfl

/-- Settings without those of their empty texts that are dropped. -/
def withoutEmpty (s : Settings) (isDropped : Field → Bool) : Settings := { s with
  bodySizeLimit := keep (isDropped .bodySizeLimit) s.bodySizeLimit
  reverseProxy := keep (isDropped .reverseProxy) s.reverseProxy
  upstreamProxy := keep (isDropped .upstreamProxy) s.upstreamProxy
  httpFormIn := keep (isDropped .httpFormIn) s.httpFormIn
  httpFormOut := keep (isDropped .httpFormOut) s.httpFormOut
  authSingleuser := keep (isDropped .authSingleuser) s.authSingleuser
  authHtpasswd := keep (isDropped .authHtpasswd) s.authHtpasswd }

/-- Dropping empty texts changes nothing else. -/
theorem agree_withoutEmpty (s : Settings) (isDropped : Field → Bool) :
    s.Agree (s.withoutEmpty isDropped) where
  modes := ⟨rfl, rfl, nonEmpty_keep .., nonEmpty_keep .., nonEmpty_keep .., nonEmpty_keep .., rfl⟩
  authentication := ⟨rfl, nonEmpty_keep .., nonEmpty_keep ..⟩
  bodySizeLimit_eq := nonEmpty_keep ..
  elsewhere := rfl

/-- Dropping empty texts makes no difference: neither to what is refused or asked for, nor to the
mode, the authenticator and the configuration, nor to any event on the way. -/
theorem empty_text_is_none (s : Settings) (isDropped : Field → Bool) (w : World)
    (resolver : Option Resolver) :
    let s' := s.withoutEmpty isDropped
    s'.validate = s.validate ∧
    s'.modeOptions.requested = s.modeOptions.requested ∧
    s'.authOptions.requested = s.authOptions.requested ∧
    s'.modeOptions.resolve resolver = s.modeOptions.resolve resolver ∧
    s'.authOptions.select w = s.authOptions.select w ∧
    Config.resolve w s' resolver = Config.resolve w s resolver ∧
    Check.run w s' = Check.run w s := by
  intro s'
  have h : s.Agree s' := agree_withoutEmpty s isDropped
  exact ⟨h.validate_eq, h.modes.requested_eq, h.authentication.requested_eq,
    h.modes.resolve_eq resolver, h.authentication.select_eq w, h.resolve_eq w resolver, h.run_eq w⟩

end Settings

end ProxySettings
