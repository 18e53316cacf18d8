import ProxySettings.Proofs.HomeText
import ProxySettings.Proofs.LoadedStore
import ProxySettings.Proofs.PathWalk
import ProxySettings.Proofs.Resolution
import ProxySettings.Proofs.Splitting

/-!
# Texts of certificate specifications

A specification is written as a domain and a path with a mark between them, or as a path alone. The
first mark counts, so that a path may have marks, and every text is written in exactly one way. The
specifications of a list are read in order, each on its own, up to the first that is refused. With a
home directory only its form, or a file that is missing, speaks against one.
-/

namespace ProxySettings

theorem Text.cut_eq_none_iff {sep : Char} {s : String} : cut sep s = none ↔ sep ∉ s.toList := by
  constructor
  · intro h hm
    obtain ⟨before, after, hs, hb⟩ := List.eq_append_cons_of_mem hm
    have hc := cutAt_eq_some_iff.mpr ⟨hs, hb⟩
    simp [cut, hc] at h
  · intro h
    rw [cut, Option.map_eq_none_iff, Option.eq_none_iff_forall_ne_some]
    rintro ⟨before, after⟩ hc
    apply h
    rw [(cutAt_eq_some_iff.mp hc).1]
    simp

namespace CertSpec

/-! ## One specification -/

/-- A text is the domain, the mark and the path, or a path alone, which is for all domains. -/
inductive IsWritten : String → String → String → Prop
  | marked {domain path : String} (h : '=' ∉ domain.toList) :
    IsWritten (domain ++ "=" ++ path) domain path
  | bare {path : String} (h : '=' ∉ path.toList) : IsWritten path anyDomain path

/-- A text is empty, or nothing stands before its first mark, or nothing after it. -/
def IsMalformed (text : String) : Prop :=
  text = "" ∨ ∃ domain path, text = domain ++ "=" ++ path ∧ '=' ∉ domain.toList ∧
    (domain = "" ∨ path = "")

/-- A specification has the domain that the text names and the path that it names, seen from the
home directory. -/
def IsRead (w : World) (text : String) (spec : CertSpec) : Prop :=
  ¬IsMalformed text ∧
    ∃ path, IsWritten text spec.domain path ∧ w.expandUser path = .ok spec.path

/-- Why a text cannot be read: for its form, or because its path needs a home directory and there is
none. -/
inductive IsUnread (w : World) : String → ConfigError → Prop
  | malformed {text : String} (h : IsMalformed text) :
    IsUnread w text (.invalidFormat .certSpec text)
  | homeless {text domain path rest : String} (h : ¬IsMalformed text)
    (hw : IsWritten text domain path) (ht : World.IsHomeText path rest) (hn : w.home = none) :
    IsUnread w text .noHomeDir

/-- Why a text is refused: it cannot be read, or nothing is where its path leads to. -/
inductive IsRefused (w : World) : String → ConfigError → Prop
  | unread {text : String} {e : ConfigError} (h : IsUnread w text e) : IsRefused w text e
  | missing {text : String} {spec : CertSpec} (h : IsRead w text spec)
    (hm : w.doesExist spec.path = false) : IsRefused w text (.fileNotFound .certificate spec.path)

theorem isWritten_iff {text domain path : String} :
    IsWritten text domain path ↔ sides text = (domain, path) := by
  rw [sides]
  constructor
  · rintro (h | h)
    · have hc : Text.cut '=' (domain ++ "=" ++ path) = some (domain, path) :=
        Text.cut_eq_some_iff.mpr ⟨rfl, h⟩
      rw [hc]
      rfl
    · rw [Text.cut_eq_none_iff.mpr h]
      rfl
  · intro h
    cases hc : Text.cut '=' text with
    | none =>
      rw [hc] at h
      obtain ⟨rfl, rfl⟩ := Prod.mk.inj h
      exact .bare (Text.cut_eq_none_iff.mp hc)
    | some cut =>
      rw [hc] at h
      obtain rfl : cut = (domain, path) := h
      obtain ⟨rfl, hd⟩ := Text.cut_eq_some_iff.mp hc
      exact .marked hd

theorem isMalformed_iff {text : String} :
    IsMalformed text ↔ (sides text).1 = "" ∨ (sides text).2 = "" := by
  constructor
  · rintro (rfl | ⟨domain, path, rfl, hd, h⟩)
    · exact .inr rfl
    · rw [isWritten_iff.mp (.marked hd)]
      exact h
  · intro h
    have hw : IsWritten text (sides text).1 (sides text).2 := isWritten_iff.mpr rfl
    generalize (sides text).1 = domain at h hw
    generalize (sides text).2 = path at h hw
    cases hw with
    | marked hd => exact .inr ⟨domain, path, rfl, hd, h⟩
    | bare => exact .inl (h.resolve_left (by decide))

theorem parse_iff_isRead {w : World} {text : String} {spec : CertSpec} :
    parse w text = .ok spec ↔ IsRead w text spec := by
  rw [parse_eq_ok_iff, IsRead, isMalformed_iff, not_or, and_assoc]
  refine and_congr_right fun _ ↦ and_congr_right fun _ ↦ ?_
  constructor
  · rintro ⟨hd, hp⟩
    exact ⟨(sides text).2, isWritten_iff.mpr (by rw [hd]), hp⟩
  · rintro ⟨path, hw, hp⟩
    rw [isWritten_iff.mp hw]
    exact ⟨rfl, hp⟩

theorem parse_eq_error_iff {w : World} {text : String} {e : ConfigError} :
    parse w text = .error e ↔ IsUnread w text e := by
  rw [parse_eq]
  by_cases hm : (sides text).1 = "" ∨ (sides text).2 = ""
  · rw [if_pos hm]
    constructor
    · rintro ⟨⟩
      exact .malformed (isMalformed_iff.mpr hm)
    · rintro (_ | ⟨h, -⟩)
      · rfl
      · exact absurd (isMalformed_iff.mpr hm) h
  · rw [if_neg hm]
    constructor
    · intro h
      obtain ⟨rfl, hn, rest, ht⟩ := World.expandUser_eq_error_iff.mp (map_eq_error_iff.mp h)
      exact .homeless (mt isMalformed_iff.mp hm) (isWritten_iff.mpr rfl) ht hn
    · rintro (h | ⟨h, hw, ht, hn⟩)
      · exact absurd (isMalformed_iff.mp h) hm
      · rw [isWritten_iff.mp hw, World.expandUser_eq_error_iff.mpr ⟨rfl, hn, _, ht⟩]
        rfl

theorem load_eq_ok_iff {w : World} {text : String} {spec : CertSpec} :
    load w text = .ok spec ↔ IsRead w text spec ∧ w.doesExist spec.path = true := by
  rw [load_eq, ← parse_iff_isRead]
  constructor
  · intro h
    obtain ⟨parsed, hp, hf⟩ := exists_of_bind_eq_ok h
    split at hf
    · next he =>
      obtain rfl := Except.ok.inj hf
      exact ⟨hp, he⟩
    · cases hf
  · rintro ⟨hp, he⟩
    rw [hp]
    exact if_pos he

theorem load_eq_error_iff {w : World} {text : String} {e : ConfigError} :
    load w text = .error e ↔ IsRefused w text e := by
  simp only [load_eq, bind_eq_error_iff, parse_eq_error_iff, parse_iff_isRead]
  constructor
  · rintro (hu | ⟨spec, hr, hf⟩)
    · exact .unread hu
    · split at hf
      · cases hf
      · next he =>
        obtain rfl := Except.error.inj hf
        exact .missing hr (Bool.eq_false_iff.mpr he)
  · rintro (hu | ⟨hr, hm⟩)
    · exact .inl hu
    · exact .inr ⟨_, hr, if_neg (Bool.eq_false_iff.mp hm)⟩

/-- A home directory with one file, whose name has a mark. -/
def sampleWorld : World := ⟨[(["a=b.pem"], .file [])], .ok "/", some "/", []⟩

end CertSpec

end ProxySettings
