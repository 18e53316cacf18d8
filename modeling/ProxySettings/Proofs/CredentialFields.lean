import ProxySettings.Proofs.Credentials

/-!
# The fields of a request that carry credentials

An authenticator that asks for credentials looks at the first field for them and at nothing else.
Cleaning a request takes away all of its fields for credentials, and leaves every other field as it
is and where it is.
-/

namespace ProxySettings

/-! ## Fields by name -/

theorem Text.eqIgnoringCase_iff {s t : String} :
    eqIgnoringCase s t = true ↔ asciiLower s = asciiLower t := by
  rw [eqIgnoringCase, beq_iff_eq]

namespace Headers

variable {fields : List (String × List UInt8)} {name other : String}

/-- The values of the fields of a name, whatever the case of its letters, in order. -/
def valuesOf (fields : List (String × List UInt8)) (name : String) : List (List UInt8) :=
  (fields.filter fun f ↦ Text.eqIgnoringCase f.1 name).map (·.2)

/-- The fields of a message but those of a name, in order. -/
def fieldsBut (fields : List (String × List UInt8)) (name : String) :
    List (String × List UInt8) :=
  fields.filter fun f ↦ !Text.eqIgnoringCase f.1 name

/-- No value of a name is left when its fields are taken away. -/
theorem valuesOf_fieldsBut_self (h : Text.eqIgnoringCase other name = true) :
    valuesOf (fieldsBut fields name) other = [] := by
  rw [valuesOf, fieldsBut, List.filter_filter, List.map_eq_nil_iff, List.filter_eq_nil_iff]
  intro f _ hf
  rw [Bool.and_eq_true, Bool.not_eq_true', ← Bool.not_eq_true, Text.eqIgnoringCase_iff,
    Text.eqIgnoringCase_iff] at hf
  exact hf.2 (hf.1.trans (Text.eqIgnoringCase_iff.mp h))

/-- The values of every other name stay as they are. -/
theorem valuesOf_fieldsBut_other (h : Text.eqIgnoringCase other name = false) :
    valuesOf (fieldsBut fields name) other = valuesOf fields other := by
  rw [valuesOf, fieldsBut, List.filter_filter, valuesOf]
  congr 2
  funext f
  cases hf : Text.eqIgnoringCase f.1 other with
  | false => rfl
  | true =>
    rw [Bool.true_and, Bool.not_eq_true', ← h, Text.eqIgnoringCase, Text.eqIgnoringCase,
      Text.eqIgnoringCase_iff.mp hf]

theorem fieldsBut_fieldsBut : fieldsBut (fieldsBut fields name) name = fieldsBut fields name := by
  rw [fieldsBut, fieldsBut, List.filter_filter]
  simp only [Bool.and_self]

/-- The first field for credentials has the first of their values. -/
theorem value_first?_ofFields (fields : List (String × List UInt8)) :
    ((ofFields fields).first? Header.proxyAuthorization).map Header.value =
      (valuesOf fields "Proxy-Authorization").head? := by
  rw [first?_ofFields, valuesOf, List.head?_map, List.head?_filter, Option.map_map]
  rfl

/-- The fields for credentials are those whose name is theirs in some case. -/
theorem without_ofFields (fields : List (String × List UInt8)) :
    (ofFields fields).without Header.proxyAuthorization =
      ofFields (fieldsBut fields "Proxy-Authorization") := by
  have hn : Text.asciiLower "Proxy-Authorization" = Header.proxyAuthorization := by decide
  rw [without, ofFields, ofFields, fieldsBut, List.filter_map]
  simp only [Text.eqIgnoringCase, hn]
  rfl

end Headers

/-! ## Credentials of a request -/

/-- The first value for credentials shows in ASCII and is read as a user and a password. -/
def Headers.Offers (fields : List (String × List UInt8)) (given : Credentials) : Prop :=
  ∃ value, (valuesOf fields "Proxy-Authorization").head? = some value ∧
    (∀ b ∈ value, Header.isVisibleByte b = true) ∧
    Credentials.ofValue? (String.ofList (value.map fun b ↦ Char.ofNat b.toNat)) = some given

theorem BasicAuth.credentials?_eq_some_iff_offers {fields : List (String × List UInt8)}
    {given : Credentials} :
    credentials? (Headers.ofFields fields) = some given ↔ Headers.Offers fields given := by
  rw [credentials?, Headers.Offers, ← Headers.value_first?_ofFields]
  simp only [bind, Option.bind_eq_some_iff, Option.map_eq_some_iff, Header.text?_eq_some_iff]
  constructor
  · rintro ⟨field, hf, _, ⟨hv, rfl⟩, hg⟩
    exact ⟨field.value, ⟨field, hf, rfl⟩, hv, hg⟩
  · rintro ⟨_, ⟨field, hf, rfl⟩, hv, hg⟩
    exact ⟨field, hf, _, ⟨hv, rfl⟩, hg⟩

namespace Authenticator

variable {auth : BasicAuth} {fields : List (String × List UInt8)}

/-- The manager answers to the credentials of a request. -/
theorem authenticate_of_offers {given : Credentials} (h : Headers.Offers fields given) :
    (basic auth).authenticate (Headers.ofFields fields) = auth.manager.test given := by
  rw [authenticate, BasicAuth.credentials?_eq_some_iff_offers.mpr h]

/-- A request without credentials is rejected. -/
theorem authenticate_of_no_offer (h : ∀ given, ¬Headers.Offers fields given) :
    (basic auth).authenticate (Headers.ofFields fields) = .rejected := by
  have hn : BasicAuth.credentials? (Headers.ofFields fields) = none := by
    rw [Option.eq_none_iff_forall_ne_some]
    exact fun given hg ↦ h given (BasicAuth.credentials?_eq_some_iff_offers.mp hg)
  rw [authenticate, hn]

theorem authenticate_eq_accepted_iff :
    (basic auth).authenticate (Headers.ofFields fields) = .accepted ↔
      ∃ given, Headers.Offers fields given ∧ auth.manager.test given = .accepted := by
  constructor
  · intro h
    by_cases ho : ∃ given, Headers.Offers fields given
    · obtain ⟨given, hg⟩ := ho
      exact ⟨given, hg, by rwa [authenticate_of_offers hg] at h⟩
    · rw [authenticate_of_no_offer (not_exists.mp ho)] at h
      cases h
  · rintro ⟨given, hg, ht⟩
    rw [authenticate_of_offers hg, ht]

/-- Requests with the same first value for credentials are answered alike. -/
theorem authenticate_congr {others : List (String × List UInt8)}
    (h : (Headers.valuesOf others "Proxy-Authorization").head? =
      (Headers.valuesOf fields "Proxy-Authorization").head?) :
    (basic auth).authenticate (Headers.ofFields others) =
      (basic auth).authenticate (Headers.ofFields fields) := by
  have hc : BasicAuth.credentials? (Headers.ofFields others) =
      BasicAuth.credentials? (Headers.ofFields fields) := by
    ext given
    rw [BasicAuth.credentials?_eq_some_iff_offers, BasicAuth.credentials?_eq_some_iff_offers,
      Headers.Offers, Headers.Offers, h]
  rw [authenticate, authenticate, hc]

theorem clean_ofFields : (basic auth).clean (Headers.ofFields fields) =
    Headers.ofFields (Headers.fieldsBut fields "Proxy-Authorization") :=
  Headers.without_ofFields fields

/-- An authenticator that asks for credentials accepts a request exactly if the manager accepts what
the first value for credentials is read as, and no other field counts. Cleaning takes all values for
credentials away and keeps the other fields with their values in order, so that a second cleaning
changes nothing and a cleaned request is rejected. Where nothing is asked for cleaning changes
nothing. -/
theorem handles_credential_fields (auth : BasicAuth) (fields : List (String × List UInt8)) :
    let request := Headers.ofFields fields
    let cleaned := (basic auth).clean request
    ((basic auth).authenticate request = .accepted ↔
      ∃ given, Headers.Offers fields given ∧ auth.manager.test given = .accepted) ∧
    (∀ given, Headers.Offers fields given →
      (basic auth).authenticate request = auth.manager.test given) ∧
    ((∀ given, ¬Headers.Offers fields given) → (basic auth).authenticate request = .rejected) ∧
    (∀ others, (Headers.valuesOf others "Proxy-Authorization").head? =
        (Headers.valuesOf fields "Proxy-Authorization").head? →
      (basic auth).authenticate (Headers.ofFields others) = (basic auth).authenticate request) ∧
    cleaned = Headers.ofFields (Headers.fieldsBut fields "Proxy-Authorization") ∧
    (∀ name, Headers.valuesOf (Headers.fieldsBut fields "Proxy-Authorization") name =
      if Text.eqIgnoringCase name "Proxy-Authorization" then []
      else Headers.valuesOf fields name) ∧
    (basic auth).clean cleaned = cleaned ∧
    (basic auth).authenticate cleaned = .rejected ∧
    disabled.clean request = request := by
  intro request cleaned
  have hself : Headers.valuesOf (Headers.fieldsBut fields "Proxy-Authorization")
      "Proxy-Authorization" = [] :=
    Headers.valuesOf_fieldsBut_self (Text.eqIgnoringCase_iff.mpr rfl)
  refine ⟨authenticate_eq_accepted_iff, fun given ↦ authenticate_of_offers,
    authenticate_of_no_offer, fun others ↦ authenticate_congr, clean_ofFields, fun name ↦ ?_, ?_,
    ?_, rfl⟩
  · split
    · next h => exact Headers.valuesOf_fieldsBut_self h
    · next h => exact Headers.valuesOf_fieldsBut_other (Bool.not_eq_true _ ▸ h)
  · simp only [cleaned, request, clean_ofFields, Headers.fieldsBut_fieldsBut]
  · simp only [cleaned, request, clean_ofFields]
    refine authenticate_of_no_offer ?_
    rintro given ⟨value, hv, -⟩
    rw [hself] at hv
    cases hv

end Authenticator

end ProxySettings
