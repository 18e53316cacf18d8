import ProxySettings.World.Basic

/-!
# Walks along paths

A walk goes name by name: a directory is entered, a file ends the walk, and a name that is not there
ends it too.
-/

namespace ProxySettings.World

/-- A name that a walk looks for. -/
structure IsName (name : String) : Prop where
  ne_empty : name ≠ ""
  ne_here : name ≠ "."
  ne_parent : name ≠ ".."
  short : name.utf8ByteSize ≤ maxName

instance (name : String) : Decidable (IsName name) :=
  decidable_of_iff
    (name ≠ "" ∧ name ≠ "." ∧ name ≠ ".." ∧ name.utf8ByteSize ≤ maxName)
    ⟨fun ⟨he, hh, hp, hs⟩ ↦ ⟨he, hh, hp, hs⟩, fun h ↦ ⟨h.1, h.2, h.3, h.4⟩⟩

theorem IsName.not_skipped {name : String} (h : IsName name) : ¬(name = "" ∨ name = ".") :=
  not_or.mpr ⟨h.ne_empty, h.ne_here⟩

theorem IsName.not_long {name : String} (h : IsName name) : ¬maxName < name.utf8ByteSize :=
  Nat.not_lt.mpr h.short

theorem IsName.of_not {name : String} (hskip : ¬(name = "" ∨ name = ".")) (hparent : name ≠ "..")
    (hlong : ¬maxName < name.utf8ByteSize) : IsName name :=
  ⟨fun h ↦ hskip (.inl h), fun h ↦ hskip (.inr h), hparent, Nat.not_lt.mp hlong⟩

/-- A path from the root that the system does not refuse by itself. -/
structure IsRooted (path : String) : Prop where
  absolute : isAbsolute path = true
  noNul : path.toList.contains '\x00' = false
  short : path.utf8ByteSize ≤ maxPath

variable {w : World} {follow : Bool} {links : Nat} {place : Place} {name : String}
  {rest : List String}

theorem walk_empty : w.walk follow links place ("" :: rest) = w.walk follow links place rest := by
  rw [walk, if_pos (Or.inl rfl)]

/-- A walk enters a directory. -/
theorem walk_dir (hn : IsName name) (he : w.entryAt? (place ++ [name]) = some .dir) :
    w.walk follow links place (name :: rest) = w.walk follow links (place ++ [name]) rest := by
  rw [walk, if_neg hn.not_skipped, if_neg hn.ne_parent, if_neg hn.not_long]
  simp only [he]

/-- A walk cannot go on behind a file. -/
theorem walk_to_file {bytes : List UInt8} (hn : IsName name)
    (he : w.entryAt? (place ++ [name]) = some (.file bytes)) :
    w.walk follow links place (name :: rest) =
      if rest.isEmpty then .ok (place ++ [name], some (.file bytes)) else .error .notDirectory := by
  rw [walk, if_neg hn.not_skipped, if_neg hn.ne_parent, if_neg hn.not_long]
  simp only [he]

/-- A walk ends at a file. -/
theorem walk_file {bytes : List UInt8} (hn : IsName name)
    (he : w.entryAt? (place ++ [name]) = some (.file bytes)) :
    w.walk follow links place [name] = .ok (place ++ [name], some (.file bytes)) := by
  rw [walk_to_file hn he, List.isEmpty_nil, if_pos rfl]

/-- A walk that is to end at a link does not follow it. -/
theorem walk_link_end {target : String} (hn : IsName name)
    (he : w.entryAt? (place ++ [name]) = some (.link target))
    (hend : (rest.isEmpty && !follow) = true) :
    w.walk follow links place (name :: rest) = .ok (place ++ [name], some (.link target)) := by
  rw [walk, if_neg hn.not_skipped, if_neg hn.ne_parent, if_neg hn.not_long]
  simp only [he, hend, ↓reduceIte]

/-- A walk goes on at the target of a link, if it may follow one more. -/
theorem walk_link {target : String} (hn : IsName name)
    (he : w.entryAt? (place ++ [name]) = some (.link target))
    (hend : ¬(rest.isEmpty && !follow) = true) :
    w.walk follow (links + 1) place (name :: rest) =
      w.walk follow links (if isAbsolute target then [] else place)
        (components target ++ rest) := by
  rw [walk, if_neg hn.not_skipped, if_neg hn.ne_parent, if_neg hn.not_long]
  simp only [he, hend, Bool.false_eq_true, ↓reduceIte]

theorem walk_link_refused {target : String} (hn : IsName name)
    (he : w.entryAt? (place ++ [name]) = some (.link target))
    (hend : ¬(rest.isEmpty && !follow) = true) :
    w.walk follow 0 place (name :: rest) = .error .tooManyLinks := by
  rw [walk, if_neg hn.not_skipped, if_neg hn.ne_parent, if_neg hn.not_long]
  simp only [he, hend, Bool.false_eq_true, ↓reduceIte]

/-- A walk finds nothing behind a name that is not there. -/
theorem walk_missing (hn : IsName name) (he : w.entryAt? (place ++ [name]) = none) :
    w.walk follow links place (name :: rest) =
      if rest.isEmpty then .ok (place ++ [name], none) else .error .notFound := by
  rw [walk, if_neg hn.not_skipped, if_neg hn.ne_parent, if_neg hn.not_long]
  simp only [he]

/-- A path from the root leads where the walk along its names leads. -/
theorem locate_of_rooted {path : String} (hp : IsRooted path) :
    w.locate follow path = w.walk follow maxLinks [] (components path) := by
  have ho : w.origin path = .ok [] := by rw [origin, if_pos hp.absolute]
  have hne : path.isEmpty = false := by
    rw [Bool.eq_false_iff, ne_eq, String.isEmpty_iff]
    rintro rfl
    exact absurd hp.absolute (by decide)
  rw [locate, hp.noNul, hne, if_neg Bool.false_ne_true, if_neg Bool.false_ne_true,
    if_neg (Nat.not_lt.mpr hp.short), ho]
  rfl

theorem find_of_walk {path : String} {entry : Entry} (hp : IsRooted path)
    (hw : ∃ place, w.walk true maxLinks [] (components path) = .ok (place, some entry)) :
    w.find path = .ok entry := by
  obtain ⟨place, hw⟩ := hw
  rw [find, locate_of_rooted hp, hw]

/-- A file in the root is found by its name. -/
theorem find_file_of_root {path name : String} {bytes : List UInt8} (hp : IsRooted path)
    (hc : components path = ["", name]) (hn : IsName name)
    (he : w.entryAt? [name] = some (.file bytes)) : w.find path = .ok (.file bytes) := by
  refine find_of_walk hp ⟨[name], ?_⟩
  rw [hc, walk_empty]
  exact walk_file hn he

theorem find_of_walk_error {path : String} {fault : IoFault} (hp : IsRooted path)
    (hw : w.walk true maxLinks [] (components path) = .error fault) :
    w.find path = .error fault := by
  rw [find, locate_of_rooted hp, hw]

end ProxySettings.World
