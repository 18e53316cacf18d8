import ProxySettings.Proofs.ExclusiveChoice

/-!
# The choice of a mode

The outcomes of choosing a mode, as a relation apart from the choice: more than one request, then a
form that is not known, then what the mode that is asked for needs and carries. Every choice has the
one outcome that the relation gives it, and only transparent mode looks at the resolver.
-/

namespace ProxySettings

/-- A text that names no form. -/
def HttpForm.IsUnknown (text : String) : Prop :=
  text ≠ "" ∧ text ≠ "relative" ∧ text ≠ "absolute" ∧ text ≠ "authority"

namespace ModeOptions

/-- The form of one side: the one that is asked for, or the default one if none is given or an empty
text. -/
inductive IsForm (given : Option String) (default : HttpForm) : HttpForm → Prop
  | asked (form : HttpForm) (h : given = some form.text) : IsForm given default form
  | notGiven (h : given = none) : IsForm given default default
  | empty (h : given = some "") : IsForm given default default

/-- What comes of a mode with a server: it carries the server that its target names, or is refused
as the target is. -/
inductive Carries (target : String) (mode : ServerSpec → ProxyMode) :
    Except ConfigError ProxyMode → Prop
  | server {server : ServerSpec} (h : ServerSpec.parse target = .ok server) :
      Carries target mode (.ok (mode server))
  | refused {e : ConfigError} (h : ServerSpec.parse target = .error e) :
      Carries target mode (.error e)

/-- What comes of a kind of mode with its forms. Transparent mode needs the resolver and carries
it. -/
inductive Builds (o : ModeOptions) (resolver : Option Resolver) (forms : HttpForms) :
    ModeKind → Except ConfigError ProxyMode → Prop
  | regular : Builds o resolver forms .regular (.ok (.regular forms))
  | transparent {r : Resolver} (h : resolver = some r) :
      Builds o resolver forms .transparent (.ok (.transparent forms r o.sslPorts))
  | unsupported (h : resolver = none) :
      Builds o resolver forms .transparent (.error .transparentUnsupported)
  | socks5 : Builds o resolver forms .socks5 (.ok (.socks5 forms o.sslPorts))
  | reverse {target : String} {r : Except ConfigError ProxyMode} (h : o.reverse = some target)
      (hc : Carries target (.reverse forms) r) : Builds o resolver forms .reverse r
  | upstream {target : String} {r : Except ConfigError ProxyMode} (h : o.upstream = some target)
      (hc : Carries target (.upstream forms) r) : Builds o resolver forms .upstream r

/-- The outcomes of choosing a mode. More than one request goes before everything else, the incoming
form before the outgoing one, and both before what the mode itself needs. -/
inductive Outcome (o : ModeOptions) (resolver : Option Resolver) :
    Except ConfigError ProxyMode → Prop
  | conflict (h : 2 ≤ o.asked.length) : Outcome o resolver (.error (.mutuallyExclusive o.asked))
  | badIncoming {text : String} (h : o.asked.length ≤ 1) (hi : o.httpFormIn = some text)
      (hu : HttpForm.IsUnknown text) : Outcome o resolver (.error (.invalidFormat .httpForm text))
  | badOutgoing {text : String} (h : o.asked.length ≤ 1)
      (hi : ∀ t ∈ o.httpFormIn, ¬HttpForm.IsUnknown t) (ho : o.httpFormOut = some text)
      (hu : HttpForm.IsUnknown text) : Outcome o resolver (.error (.invalidFormat .httpForm text))
  | built {kind : ModeKind} {forms : HttpForms} {r : Except ConfigError ProxyMode}
      (hk : o.asked = kind.flag?.toList)
      (hi : IsForm o.httpFormIn kind.defaultForms.incoming forms.incoming)
      (ho : IsForm o.httpFormOut kind.defaultForms.outgoing forms.outgoing)
      (hb : Builds o resolver forms kind r) : Outcome o resolver r

/-! ## Forms -/

variable {o : ModeOptions} {resolver : Option Resolver}

theorem formOverride_text (form : HttpForm) : formOverride (some form.text) = .ok (some form) := by
  cases form <;> rfl

/-- A text that is neither empty nor unknown is that of a form. -/
theorem exists_form {text : String} (he : text ≠ "") (hu : ¬HttpForm.IsUnknown text) :
    ∃ form : HttpForm, text = form.text := by
  by_contra! h
  exact hu ⟨he, h .relative, h .absolute, h .authority⟩

theorem formOverride_of_isUnknown {text : String} (h : HttpForm.IsUnknown text) :
    formOverride (some text) = .error (.invalidFormat .httpForm text) := by
  have hn : nonEmpty (some text) = some text := if_pos (decide_eq_true h.1)
  have hf : [HttpForm.relative, .absolute, .authority].find? (·.text == text) = none := by
    simp [HttpForm.text, h.2.1.symm, h.2.2.1.symm, h.2.2.2.symm]
  simp only [formOverride, hn, HttpForm.parse, hf]
  rfl

/-- A form that is not unknown is read, and what is read settles the form on its side. -/
theorem formOverride_of_known {given : Option String} (h : ∀ t ∈ given, ¬HttpForm.IsUnknown t) :
    ∃ form, formOverride given = .ok form ∧
      ∀ default, IsForm given default (form.getD default) := by
  match given with
  | none => exact ⟨none, rfl, fun _ ↦ .notGiven rfl⟩
  | some text =>
    by_cases he : text = ""
    · subst he
      exact ⟨none, rfl, fun _ ↦ .empty rfl⟩
    · obtain ⟨form, rfl⟩ := exists_form he (h text rfl)
      exact ⟨some form, formOverride_text form, fun _ ↦ .asked form rfl⟩

theorem IsForm.exists_formOverride {given : Option String} {default form : HttpForm}
    (h : IsForm given default form) :
    ∃ asked, formOverride given = .ok asked ∧ asked.getD default = form := by
  cases h with
  | asked form h => exact ⟨some form, h ▸ formOverride_text form, rfl⟩
  | notGiven h => exact ⟨none, h ▸ rfl, rfl⟩
  | empty h => exact ⟨none, h ▸ rfl, rfl⟩

/-! ## What the mode needs -/

/-- The kind is that of the only request. -/
theorem kind_eq_of_asked {kind : ModeKind} (h : o.asked = kind.flag?.toList) : o.kind = kind := by
  have hl : o.requested.length ≤ 1 := by
    rw [requested_eq_asked, h]
    cases kind <;> decide
  have hk : o.kind.flag?.toList = kind.flag?.toList := by
    rw [← requested_eq_of_length_le_one hl, requested_eq_asked, h]
  revert hk
  cases o.kind <;> cases kind <;> decide

theorem asks_of_kind {kind : ModeKind} {flag : Flag} (h : o.asked = kind.flag?.toList)
    (hf : kind.flag? = some flag) : o.Asks flag := by
  have hm : flag ∈ o.asked := by
    rw [h, hf]
    exact List.mem_singleton_self flag
  exact of_decide_eq_true (List.mem_filter.mp hm).2

theorem nonEmpty_of_ne {text : Option String} {t : String} (h : text = some t) (ht : t ≠ "") :
    nonEmpty text = some t := by
  rw [h, nonEmpty, Option.filter_some, if_pos (decide_eq_true ht)]

theorem map_parse_eq_iff_carries {target : String} {mode : ServerSpec → ProxyMode}
    {r : Except ConfigError ProxyMode} :
    (ServerSpec.parse target).map mode = r ↔ Carries target mode r := by
  constructor
  · rintro rfl
    cases h : ServerSpec.parse target with
    | ok server => exact .server h
    | error e => exact .refused h
  · rintro (h | h)
    · rw [h]
      rfl
    · rw [h]
      rfl

/-- Building the mode that is asked for comes out as the table of kinds says. -/
theorem build_eq_iff_builds {kind : ModeKind} {forms : HttpForms}
    {r : Except ConfigError ProxyMode} (h : o.asked = kind.flag?.toList) :
    o.build resolver forms = r ↔ Builds o resolver forms kind r := by
  have hk : o.kind = kind := kind_eq_of_asked h
  cases kind with
  | regular =>
    simp only [build, hk]
    constructor
    · rintro rfl
      exact .regular
    · rintro ⟨⟩
      rfl
  | transparent =>
    simp only [build, hk]
    constructor
    · rintro rfl
      cases resolver with
      | none => exact .unsupported rfl
      | some r => exact .transparent rfl
    · rintro (_ | hr | hr)
      · rw [hr]
      · rw [hr]
  | socks5 =>
    simp only [build, hk]
    constructor
    · rintro rfl
      exact .socks5
    · rintro ⟨⟩
      rfl
  | reverse =>
    obtain ⟨target, ht, hne⟩ : o.Asks .reverse := asks_of_kind h rfl
    simp only [build, hk, reverseTarget, nonEmpty_of_ne ht hne, Option.getD_some,
      map_parse_eq_iff_carries]
    constructor
    · exact .reverse ht
    · rintro ⟨⟩
      next ht' hc => rwa [← Option.some.inj (ht'.symm.trans ht)]
  | upstream =>
    obtain ⟨target, ht, hne⟩ : o.Asks .upstream := asks_of_kind h rfl
    simp only [build, hk, upstreamTarget, nonEmpty_of_ne ht hne, Option.getD_some,
      map_parse_eq_iff_carries]
    constructor
    · exact .upstream ht
    · rintro ⟨⟩
      next ht' hc => rwa [← Option.some.inj (ht'.symm.trans ht)]

/-! ## The choice -/

theorem result_resolve_of_le (h : o.asked.length ≤ 1) (resolver : Option Resolver) :
    (o.resolve resolver).result =
      (formOverride o.httpFormIn).bind fun incoming ↦
      (formOverride o.httpFormOut).bind fun outgoing ↦
      o.build resolver ⟨incoming.getD o.kind.defaultForms.incoming,
        outgoing.getD o.kind.defaultForms.outgoing⟩ := by
  rw [← requested_eq_asked] at h
  rw [resolve, if_neg (Nat.not_lt.mpr h)]
  simp only [Traced.result_bind, Traced.result_lift, Traced.result_log]
  -- What is left after the mode is built is the event, and that never refuses.
  exact congrArg _ (funext fun _ ↦ congrArg _ (funext fun _ ↦ bind_pure _))

theorem outcome_resolve (o : ModeOptions) (resolver : Option Resolver) :
    Outcome o resolver (o.resolve resolver).result := by
  rcases Nat.lt_or_ge 1 o.asked.length with h | h
  · rw [resolve_of_conflict (by rwa [requested_eq_asked]), requested_eq_asked]
    exact .conflict h
  · rw [result_resolve_of_le h]
    by_cases hi : ∃ t ∈ o.httpFormIn, HttpForm.IsUnknown t
    · obtain ⟨t, ht, hu⟩ := hi
      rw [ht, formOverride_of_isUnknown hu]
      exact .badIncoming h ht hu
    · push Not at hi
      obtain ⟨incoming, hin, hfi⟩ := formOverride_of_known hi
      rw [hin]
      by_cases ho : ∃ t ∈ o.httpFormOut, HttpForm.IsUnknown t
      · obtain ⟨t, ht, hu⟩ := ho
        rw [ht, formOverride_of_isUnknown hu]
        exact .badOutgoing h hi ht hu
      · push Not at ho
        obtain ⟨outgoing, hout, hfo⟩ := formOverride_of_known ho
        rw [hout]
        have hk : o.asked = o.kind.flag?.toList := by
          rw [← requested_eq_asked] at h ⊢
          exact requested_eq_of_length_le_one h
        exact .built hk (hfi _) (hfo _) ((build_eq_iff_builds hk).mp rfl)

theorem Outcome.eq_result {r : Except ConfigError ProxyMode} (h : Outcome o resolver r) :
    (o.resolve resolver).result = r := by
  cases h with
  | conflict h =>
    rw [resolve_of_conflict (by rwa [requested_eq_asked]), requested_eq_asked]
  | badIncoming h hi hu =>
    rw [result_resolve_of_le h, hi, formOverride_of_isUnknown hu]
    rfl
  | badOutgoing h hi ho hu =>
    obtain ⟨incoming, hin, -⟩ := formOverride_of_known hi
    rw [result_resolve_of_le h, hin, ho, formOverride_of_isUnknown hu]
    rfl
  | @built kind forms r hk hi ho hb =>
    have hl : o.asked.length ≤ 1 := by
      rw [hk]
      cases kind <;> decide
    obtain ⟨incoming, hin, hfi⟩ := hi.exists_formOverride
    obtain ⟨outgoing, hout, hfo⟩ := ho.exists_formOverride
    rw [result_resolve_of_le hl, hin, hout, kind_eq_of_asked hk]
    change o.build resolver ⟨incoming.getD _, outgoing.getD _⟩ = r
    rw [hfi, hfo]
    exact (build_eq_iff_builds hk).mpr hb

/-! ## What the choice does not look at -/

/-- Options that ask for the same and build the same make the same choice. -/
theorem resolve_congr {o' : ModeOptions} {resolver' : Option Resolver}
    (hr : o'.requested = o.requested) (hk : o'.kind = o.kind)
    (hi : o'.httpFormIn = o.httpFormIn) (ho : o'.httpFormOut = o.httpFormOut)
    (hb : o.requested.length ≤ 1 → ∀ forms, o'.build resolver' forms = o.build resolver forms) :
    o'.resolve resolver' = o.resolve resolver := by
  rcases Nat.lt_or_ge 1 o.requested.length with h | h
  · rw [resolve_eq_refuse h, resolve_eq_refuse (hr ▸ h), hr]
  · simp only [resolve, hr, hk, hi, ho, hb h]

theorem kind_ne_of_asked_ne {kind : ModeKind} (h : o.requested.length ≤ 1)
    (ha : o.asked ≠ kind.flag?.toList) : o.kind ≠ kind := by
  rintro rfl
  exact ha (requested_eq_asked o ▸ requested_eq_of_length_le_one h)

theorem build_congr_resolver (h : o.kind ≠ .transparent) (other : Option Resolver)
    (forms : HttpForms) : o.build other forms = o.build resolver forms := by
  unfold build
  cases hk : o.kind with
  | transparent => exact absurd hk h
  | _ => rfl

theorem build_congr_sslPorts (ht : o.kind ≠ .transparent) (hs : o.kind ≠ .socks5)
    (ports : List UInt16) (forms : HttpForms) :
    { o with sslPorts := ports }.build resolver forms = o.build resolver forms := by
  have hk : { o with sslPorts := ports }.kind = o.kind := rfl
  unfold build
  rw [hk]
  cases hk : o.kind with
  | transparent => exact absurd hk ht
  | socks5 => exact absurd hk hs
  | _ => rfl

/-- Every choice of a mode has the outcome that the table gives it, and no other. The requests of a
conflict are listed in the order of the options. Unless transparent mode alone is asked for, the
choice is the same with any resolver, events included; unless a mode that carries ports alone is
asked for, it is the same with any ports. -/
theorem resolve_follows_table (o : ModeOptions) (resolver : Option Resolver) :
    (∀ r, (o.resolve resolver).result = r ↔ Outcome o resolver r) ∧
    Flag.modes.map Flag.name = ["--transparent", "--socks", "--reverse", "--upstream"] ∧
    (o.asked ≠ [.transparent] → ∀ other, o.resolve other = o.resolve resolver) ∧
    (o.asked ≠ [.transparent] → o.asked ≠ [.socks] →
      ∀ ports, { o with sslPorts := ports }.resolve resolver = o.resolve resolver) := by
  refine ⟨fun r ↦ ⟨?_, Outcome.eq_result⟩, rfl, fun ht other ↦ ?_, fun ht hs ports ↦ ?_⟩
  · rintro rfl
    exact outcome_resolve o resolver
  · exact resolve_congr rfl rfl rfl rfl fun h ↦
      build_congr_resolver (kind_ne_of_asked_ne h ht) other
  · exact resolve_congr rfl rfl rfl rfl fun h ↦
      build_congr_sslPorts (kind_ne_of_asked_ne h ht) (kind_ne_of_asked_ne h hs) ports

/-- A conflict goes before unknown forms, a bad target and a missing resolver. -/
theorem resolve_follows_table_in_conflict :
    (resolve ⟨true, false, some "nowhere", none, some "tunnel", some "", [443]⟩ none).result =
      .error (.mutuallyExclusive [.transparent, .reverse]) :=
  ((resolve_follows_table _ none).1 _).mpr (.conflict (by decide))

end ModeOptions

end ProxySettings
