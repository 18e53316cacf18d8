import ProxySettings.Proofs.Authentication

/-!
# The order of the ways to authenticate

Selection tries the ways in an order of precedence. Where at most one way is asked for, every order
of the ways selects the same authenticator with the same events.
-/

namespace ProxySettings

/-- The first match in a list does not depend on the order of the items if at most one matches. -/
theorem findSome?_eq_of_perm {α β : Type} {f : α → Option β} {l l' : List α} (hp : l.Perm l')
    (hu : ∀ a ∈ l, ∀ b ∈ l, (f a).isSome → (f b).isSome → a = b) :
    l.findSome? f = l'.findSome? f := by
  cases h : l.findSome? f with
  | none =>
    rw [List.findSome?_eq_none_iff] at h
    rw [eq_comm, List.findSome?_eq_none_iff]
    exact fun a ha ↦ h a (hp.mem_iff.mpr ha)
  | some v =>
    obtain ⟨a, ha, hv⟩ := List.exists_of_findSome?_eq_some h
    cases h' : l'.findSome? f with
    | none =>
      rw [List.findSome?_eq_none_iff.mp h' a (hp.mem_iff.mp ha)] at hv
      cases hv
    | some v' =>
      obtain ⟨a', ha', hv'⟩ := List.exists_of_findSome?_eq_some h'
      have he := hu a ha a' (hp.mem_iff.mpr ha') (by rw [hv]; rfl) (by rw [hv']; rfl)
      rw [← hv, ← hv', he]

/-- The ways to authenticate, the one that is tried first before the others. -/
def AuthBackend.precedence : List AuthBackend := [singleUser, nonAnonymous, htpasswd]

/-- The option that asks for a way. -/
def AuthBackend.flag? : AuthBackend → Option Flag
  | disabled => none
  | nonAnonymous => some .nonanonymous
  | singleUser => some .singleuser
  | htpasswd => some .htpasswd

theorem AuthBackend.eq_of_flag?_eq {a b : AuthBackend} (h : a.flag? = b.flag?) : a = b := by
  revert h
  cases a <;> cases b <;> simp [flag?]

/-- A list with at most one item has no two. -/
theorem eq_of_mem_of_length_le_one {α : Type} {l : List α} (h : l.length ≤ 1) {a b : α}
    (ha : a ∈ l) (hb : b ∈ l) : a = b := by
  match l with
  | [] => exact absurd ha List.not_mem_nil
  | [x] => rw [List.mem_singleton.mp ha, List.mem_singleton.mp hb]
  | x :: y :: rest =>
    simp only [List.length_cons] at h
    omega

namespace AuthOptions

/-- The manager of a way, if the way is asked for. -/
def managerOf? (o : AuthOptions) (w : World) : AuthBackend → Option (Traced PasswordManager)
  | .singleUser => o.singleuserSpec.map fun spec ↦ do return .singleUser (← SingleUser.parse spec)
  | .nonAnonymous => if o.nonanonymous then some (return .nonAnonymous) else none
  | .htpasswd => o.htpasswdPath.map fun path ↦
      do return .htpasswd (← Htpasswd.load w (← w.expandUser path))
  | .disabled => none

/-- The authenticator of a manager, with the events of its selection. -/
def authenticatorOf (manager : Option PasswordManager) : Traced Authenticator := do
  match manager with
  | none =>
    .log .info "Proxy authentication disabled" [("backend", AuthBackend.disabled.text)]
    return .disabled
  | some manager =>
    .log .info "Proxy authentication enabled"
      [("backend", manager.backend.text), ("realm", Text.quoted realm)]
    return .basic (← BasicAuth.ofRealm manager realm)

/-- Choose the authenticator where the ways are tried in some order. -/
def selectIn (order : List AuthBackend) (o : AuthOptions) (w : World) : Traced Authenticator := do
  match order.findSome? (o.managerOf? w) with
  | none => authenticatorOf none
  | some manager => authenticatorOf (some (← manager))

variable {o : AuthOptions} {w : World}

/-- Choosing tries the ways in the order of precedence. -/
theorem select_eq_selectIn (o : AuthOptions) (w : World) :
    o.select w = o.selectIn AuthBackend.precedence w := by
  have hs : o.select w = o.manager? w >>= authenticatorOf := rfl
  rw [hs, manager?, selectIn, AuthBackend.precedence]
  simp only [List.findSome?_cons, List.findSome?_nil, managerOf?]
  cases o.singleuserSpec with
  | some spec => simp only [Option.map_some, Traced.bind_assoc, Traced.pure_bind]
  | none =>
    cases o.nonanonymous with
    | true => simp only [Option.map_none, ↓reduceIte, Traced.pure_bind]
    | false =>
      cases o.htpasswdPath with
      | some path =>
        simp only [Option.map_none, Option.map_some, Bool.false_eq_true, ↓reduceIte,
          Traced.bind_assoc, Traced.pure_bind]
      | none =>
        simp only [Option.map_none, Bool.false_eq_true, ↓reduceIte, Traced.pure_bind]

/-- A way has a manager exactly if its option is set. -/
theorem isSome_managerOf?_iff {backend : AuthBackend} :
    (o.managerOf? w backend).isSome = true ↔ ∃ flag ∈ o.requested, backend.flag? = some flag := by
  rw [requested]
  cases backend with
  | disabled => simp [managerOf?, AuthBackend.flag?]
  | nonAnonymous => cases h : o.nonanonymous <;> simp [managerOf?, AuthBackend.flag?, h]
  | singleUser => cases h : o.singleuserSpec <;> simp [managerOf?, AuthBackend.flag?, h]
  | htpasswd => cases h : o.htpasswdPath <;> simp [managerOf?, AuthBackend.flag?, h]

/-- Where at most one way is asked for the order of the ways does not count. -/
theorem selectIn_eq_of_perm (h : o.requested.length ≤ 1) {order : List AuthBackend}
    (hp : order.Perm AuthBackend.precedence) : o.selectIn order w = o.select w := by
  rw [select_eq_selectIn, selectIn, selectIn, findSome?_eq_of_perm hp]
  intro a _ b _ ha hb
  obtain ⟨flag, hf, ha⟩ := isSome_managerOf?_iff.mp ha
  obtain ⟨flag', hf', hb⟩ := isSome_managerOf?_iff.mp hb
  rw [eq_of_mem_of_length_le_one h hf hf', ← hb] at ha
  exact AuthBackend.eq_of_flag?_eq ha

end AuthOptions

end ProxySettings
