import ProxySettings.Auth.SingleUser
import ProxySettings.Proofs.Splitting

/-!
# Specifications of a single user

A specification with one colon is read, and every other one is refused. The colon that is there is
also the first one, at which the credentials of a request are cut.
-/

namespace ProxySettings.SingleUser

/-- A specification is read as the texts around its only colon. -/
theorem parse_eq_ok_iff {spec : String} {known : Credentials} :
    parse spec = .ok known ↔
      spec.toList = known.user.toList ++ ':' :: known.password.toList ∧
        ':' ∉ known.user.toList ∧ ':' ∉ known.password.toList := by
  rw [parse]
  split
  · next user password h =>
    rw [Text.splitOnAll_eq_pair_iff] at h
    constructor
    · intro he
      obtain rfl := Except.ok.inj he
      simpa using h
    · intro hk
      rw [← Text.splitOnAll_eq_pair_iff, Text.splitOnAll_eq_pair_iff.mpr h] at hk
      obtain ⟨hu, hp⟩ := List.cons.inj hk
      rw [hu, (List.cons.inj hp).1, String.ofList_toList, String.ofList_toList]
  · next h =>
    constructor
    · intro he
      cases he
    · intro hk
      exact absurd (Text.splitOnAll_eq_pair_iff.mpr hk) (h _ _)

/-- A specification is read exactly if it has one colon. -/
theorem exists_parse_iff {spec : String} :
    (∃ known, parse spec = .ok known) ↔ spec.toList.count ':' = 1 := by
  rw [Text.count_eq_one_iff]
  constructor
  · rintro ⟨known, h⟩
    exact ⟨_, _, parse_eq_ok_iff.mp h⟩
  · rintro ⟨user, password, h⟩
    refine ⟨⟨String.ofList user, String.ofList password⟩, parse_eq_ok_iff.mpr ?_⟩
    simpa using h

/-- A refused specification is named. -/
theorem parse_eq_error_iff {spec : String} {e : ConfigError} :
    parse spec = .error e ↔ spec.toList.count ':' ≠ 1 ∧ e = .invalidFormat .singleUser spec := by
  rw [ne_eq, ← exists_parse_iff, parse]
  split
  · simp
  · simp [eq_comm]

end ProxySettings.SingleUser
