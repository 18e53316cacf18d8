import ProxySettings.Proofs.Refusal
import ProxySettings.World.Home

/-!
# Texts for paths in the home directory

A text is for a path in the home directory if it is the mark `~`, or has a slash behind the mark.
It needs a home directory, and nothing else can go wrong with it. Every other text is the path
itself.
-/

namespace ProxySettings.World

/-- A text for a path in the home directory, with the rest behind the mark. -/
inductive IsHomeText : String → String → Prop
  | home : IsHomeText "~" ""
  | below (rest : String) : IsHomeText ("~/" ++ rest) rest

variable {w : World} {text rest : String}

private theorem expandUser_home (w : World) : w.expandUser "~" = w.homeDir := rfl

private theorem expandUser_below (w : World) (rest : String) :
    w.expandUser ("~/" ++ rest) = w.homeDir.map (join · rest) := by
  have ht : ("~/" ++ rest).toList = '~' :: '/' :: rest.toList := by simp
  have he : w.expandUser ("~/" ++ rest) =
      w.homeDir.map fun home ↦ join home (String.ofList rest.toList) := by
    rw [expandUser, ht]
    rfl
  rw [he, String.ofList_toList]

theorem expandUser_home_of_some {home : String} (hw : w.home = some home) :
    w.expandUser "~" = .ok home := by
  rw [expandUser_home, homeDir, hw]

theorem expandUser_below_of_some {home : String} (hw : w.home = some home) (rest : String) :
    w.expandUser ("~/" ++ rest) = .ok (join home rest) := by
  rw [expandUser_below, homeDir, hw]
  rfl

/-- Without a home directory no text for a path in it can be expanded. -/
theorem expandUser_of_none (hw : w.home = none) (ht : IsHomeText text rest) :
    w.expandUser text = .error .noHomeDir := by
  cases ht with
  | home => rw [expandUser_home, homeDir, hw]
  | below =>
    rw [expandUser_below, homeDir, hw]
    rfl

/-- A text for no path in the home directory is the path itself. -/
theorem expandUser_of_not_isHomeText (h : ∀ rest, ¬IsHomeText text rest) :
    w.expandUser text = .ok text := by
  rw [expandUser]
  split
  · next ht =>
    obtain rfl : text = "~" := String.toList_inj.mp ht
    exact absurd .home (h "")
  · next rest ht =>
    obtain rfl : text = "~/" ++ String.ofList rest := by
      rw [← String.toList_inj, ht]
      simp
    exact absurd (.below _) (h _)
  · rfl

/-- Whoever has a home directory can expand every text. -/
theorem exists_expandUser {home : String} (hw : w.home = some home) (text : String) :
    ∃ path, w.expandUser text = .ok path := by
  by_cases h : ∃ rest, IsHomeText text rest
  · obtain ⟨rest, ht⟩ := h
    cases ht with
    | home => exact ⟨_, expandUser_home_of_some hw⟩
    | below => exact ⟨_, expandUser_below_of_some hw rest⟩
  · exact ⟨text, expandUser_of_not_isHomeText (not_exists.mp h)⟩

/-- A text is refused exactly if it needs a home directory and there is none. -/
theorem expandUser_eq_error_iff {e : ConfigError} : w.expandUser text = .error e ↔
    e = .noHomeDir ∧ w.home = none ∧ ∃ rest, IsHomeText text rest := by
  constructor
  · intro h
    cases hw : w.home with
    | some home =>
      obtain ⟨path, hp⟩ := exists_expandUser hw text
      rw [hp] at h
      cases h
    | none =>
      by_cases ht : ∃ rest, IsHomeText text rest
      · obtain ⟨rest, ht⟩ := ht
        rw [expandUser_of_none hw ht] at h
        exact ⟨(Except.error.inj h).symm, rfl, rest, ht⟩
      · rw [expandUser_of_not_isHomeText (not_exists.mp ht)] at h
        cases h
  · rintro ⟨rfl, hw, rest, ht⟩
    exact expandUser_of_none hw ht

end ProxySettings.World
