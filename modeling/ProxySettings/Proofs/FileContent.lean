import ProxySettings.Certs.Store
import ProxySettings.Config
import ProxySettings.Proofs.PathWalk

/-!
# The content of one file

Worlds that differ only in the content of one file lead every path to the same place. Whatever does
not read that file is the same in both.
-/

namespace ProxySettings

open World (Place Entry)

namespace World

/-- A path leads to something at a place. -/
def LeadsTo (w : World) (path : String) (place : Place) : Prop :=
  ∃ entry, w.locate true path = .ok (place, some entry)

/-- Two worlds that differ only in the content of the file at a place. -/
structure SameBut (place : Place) (w w' : World) : Prop where
  workDir_eq : w'.workDir = w.workDir
  home_eq : w'.home = w.home
  environment_eq : w'.environment = w.environment
  entryAt?_eq : ∀ other ≠ place, w'.entryAt? other = w.entryAt? other
  holds : ∃ bytes, w.entryAt? place = some (.file bytes)
  holds' : ∃ bytes, w'.entryAt? place = some (.file bytes)

/-- What a walk reaches is what the place holds. -/
theorem entryAt?_of_walk {w : World} {follow : Bool} {links : Nat} {start place : Place}
    {names : List String} {found : Option Entry}
    (h : w.walk follow links start names = .ok (place, found)) : found = w.entryAt? place := by
  fun_induction w.walk follow links start names with
  | case1 => cases h; rfl
  | _ => simp_all

theorem entryAt?_of_locate {w : World} {follow : Bool} {path : String} {place : Place}
    {found : Option Entry} (h : w.locate follow path = .ok (place, found)) :
    found = w.entryAt? place := by
  rw [locate] at h
  split at h
  · cases h
  split at h
  · cases h
  split at h
  · cases h
  cases ho : w.origin path with
  | error fault =>
    rw [ho] at h
    cases h
  | ok start =>
    rw [ho] at h
    exact entryAt?_of_walk h

namespace SameBut

variable {place : Place} {w w' : World}

theorem eq_or_file (h : SameBut place w w') (other : Place) :
    w'.entryAt? other = w.entryAt? other ∨ other = place ∧ ∃ bytes bytes',
      w.entryAt? other = some (.file bytes) ∧ w'.entryAt? other = some (.file bytes') := by
  by_cases ho : other = place
  · subst ho
    obtain ⟨bytes, hb⟩ := h.holds
    obtain ⟨bytes', hb'⟩ := h.holds'
    exact .inr ⟨rfl, bytes, bytes', hb, hb'⟩
  · exact .inl (h.entryAt?_eq other ho)

/-- What is no file is the same in both worlds. -/
theorem entryAt?_of_not_file (h : SameBut place w w') {other : Place} {found : Option Entry}
    (he : w.entryAt? other = found) (hf : ∀ bytes, found ≠ some (.file bytes)) :
    w'.entryAt? other = found := by
  rcases h.eq_or_file other with heq | ⟨-, bytes, -, hb, -⟩
  · exact heq.trans he
  · exact absurd (he.symm.trans hb) (hf bytes)

/-- A file is a file in the other world. -/
theorem exists_file (h : SameBut place w w') {other : Place} {bytes : List UInt8}
    (hb : w.entryAt? other = some (.file bytes)) :
    ∃ bytes', w'.entryAt? other = some (.file bytes') := by
  rcases h.eq_or_file other with he | ⟨-, -, bytes', -, hb'⟩
  · exact ⟨bytes, he.trans hb⟩
  · exact ⟨bytes', hb'⟩

/-- A walk reaches the same place in both worlds, or it is refused in both. -/
theorem walk_eq (h : SameBut place w w') (follow : Bool) (links : Nat) (start : Place)
    (names : List String) :
    w'.walk follow links start names =
      (w.walk follow links start names).map fun reached ↦ (reached.1, w'.entryAt? reached.1) := by
  -- Both walks look at one entry at a time, and its kind is the same in both worlds.
  fun_induction w.walk follow links start names with
  | case1 links start =>
    rw [walk]
    rfl
  | case2 links start name rest hskip ih => rw [walk, if_pos hskip, ih]
  | case3 links start rest hskip ih => rw [walk, if_neg hskip, if_pos rfl, ih]
  | case4 links start name rest hskip hparent hlong =>
    rw [walk, if_neg hskip, if_neg hparent, if_pos hlong]
    rfl
  | case5 links start name rest hskip hparent hlong next he hrest =>
    have he' := h.entryAt?_of_not_file he (by simp)
    rw [walk_missing (.of_not hskip hparent hlong) he', if_pos hrest, Except.map, he']
  | case6 links start name rest hskip hparent hlong next he hrest =>
    have he' := h.entryAt?_of_not_file he (by simp)
    rw [walk_missing (.of_not hskip hparent hlong) he', if_neg hrest, Except.map]
  | case7 links start name rest hskip hparent hlong next he ih =>
    have he' := h.entryAt?_of_not_file he (by simp)
    rw [walk_dir (.of_not hskip hparent hlong) he', ih]
  | case8 links start name rest hskip hparent hlong next bytes he hrest =>
    obtain ⟨bytes', he'⟩ := h.exists_file he
    rw [walk_to_file (.of_not hskip hparent hlong) he', if_pos hrest, Except.map, he']
  | case9 links start name rest hskip hparent hlong next bytes he hrest =>
    obtain ⟨bytes', he'⟩ := h.exists_file he
    rw [walk_to_file (.of_not hskip hparent hlong) he', if_neg hrest, Except.map]
  | case10 links start name rest hskip hparent hlong next target he hend =>
    have he' := h.entryAt?_of_not_file he (by simp)
    rw [walk_link_end (.of_not hskip hparent hlong) he' hend, Except.map, he']
  | case11 start name rest hskip hparent hlong next target he hend =>
    have he' := h.entryAt?_of_not_file he (by simp)
    rw [walk_link_refused (.of_not hskip hparent hlong) he' hend, Except.map]
  | case12 start name rest hskip hparent hlong next target he hend links ih =>
    have he' := h.entryAt?_of_not_file he (by simp)
    rw [walk_link (.of_not hskip hparent hlong) he' hend]
    exact ih

/-- A path leads to the same place in both worlds, or it is refused in both. -/
theorem locate_eq (h : SameBut place w w') (follow : Bool) (path : String) :
    w'.locate follow path =
      (w.locate follow path).map fun reached ↦ (reached.1, w'.entryAt? reached.1) := by
  have ho : w'.origin path = w.origin path := by rw [origin, origin, h.workDir_eq]
  simp only [locate, h.walk_eq, ho, apply_ite (Except.map _)]
  cases w.origin path <;> rfl

/-- A path leads to the same in both worlds, or to a file in both. -/
theorem find_eq_or_file (h : SameBut place w w') (path : String) :
    w'.find path = w.find path ∨
      w.LeadsTo path place ∧ ∃ bytes bytes',
        w.find path = .ok (.file bytes) ∧ w'.find path = .ok (.file bytes') := by
  rw [find, find, h.locate_eq]
  cases hl : w.locate true path with
  | error fault => exact .inl rfl
  | ok reached =>
    obtain ⟨other, found⟩ := reached
    obtain rfl : found = w.entryAt? other := entryAt?_of_locate hl
    rcases h.eq_or_file other with he | ⟨rfl, bytes, bytes', hb, hb'⟩
    · simp only [Except.map, he, true_or]
    · refine .inr ⟨⟨.file bytes, hb ▸ hl⟩, bytes, bytes', ?_, ?_⟩
      · rw [hb]
      · rw [Except.map, hb']

/-- A path that leads elsewhere leads to the same in both worlds. -/
theorem find_eq (h : SameBut place w w') {path : String} (hp : ¬w.LeadsTo path place) :
    w'.find path = w.find path :=
  (h.find_eq_or_file path).resolve_right fun hr ↦ hp hr.1

theorem doesExist_eq (h : SameBut place w w') (path : String) :
    w'.doesExist path = w.doesExist path := by
  rw [doesExist, doesExist]
  rcases h.find_eq_or_file path with he | ⟨-, bytes, bytes', hb, hb'⟩
  · rw [he]
  · rw [hb, hb']
    rfl

theorem isDir_eq (h : SameBut place w w') (path : String) : w'.isDir path = w.isDir path := by
  rw [isDir, isDir]
  rcases h.find_eq_or_file path with he | ⟨-, bytes, bytes', hb, hb'⟩
  · rw [he]
  · rw [hb, hb']
    rfl

theorem read_eq (h : SameBut place w w') {path : String} (hp : ¬w.LeadsTo path place) :
    w'.read path = w.read path := by
  rw [read, read, h.find_eq hp]

theorem isFile_eq (h : SameBut place w w') {path : String} (hp : ¬w.LeadsTo path place) :
    w'.isFile path = w.isFile path := by
  rw [isFile, isFile, file?, file?, h.find_eq hp]

theorem expandUser_eq (h : SameBut place w w') (path : String) :
    w'.expandUser path = w.expandUser path := by
  rw [expandUser, expandUser, homeDir, homeDir, h.home_eq]

theorem absolute_eq (h : SameBut place w w') (path : String) :
    w'.absolute path = w.absolute path := by
  rw [absolute, absolute, h.workDir_eq, h.expandUser_eq]

end SameBut

end World

/-! ## What does not read the file -/

variable {place : Place} {w w' : World}

theorem Config.clientCertDir_eq (h : World.SameBut place w w') (text : Option String) :
    clientCertDir w' text = clientCertDir w text := by
  cases text with
  | none => rfl
  | some text => simp only [clientCertDir, requireDir, h.expandUser_eq, h.doesExist_eq, h.isDir_eq]

/-- Specifications are read from their texts, and their files only have to be there. -/
theorem CertSpec.loadAll_eq (h : World.SameBut place w w') (texts : List String) :
    loadAll w' texts = loadAll w texts := by
  have hl : load w' = load w := by
    funext text
    simp only [load, parse, h.expandUser_eq, h.doesExist_eq]
  rw [loadAll, loadAll, hl]

theorem CertEntry.load_eq (h : World.SameBut place w w') (domain : String) {path : String}
    (hp : ¬w.LeadsTo path place) : load w' domain path = load w domain path := by
  rw [load, load, h.read_eq hp]

namespace CertStore

theorem ofDir_eq (h : World.SameBut place w w') {cadir basename : String}
    (hp : ¬w.LeadsTo (caPath cadir basename) place) :
    ofDir w' cadir basename = ofDir w cadir basename := by
  rw [ofDir, ofDir, h.isFile_eq hp, CertEntry.load_eq h _ hp]

theorem addAll_eq (h : World.SameBut place w w') (s : CertStore) {specs : List CertSpec}
    (hp : ∀ spec ∈ specs, ¬w.LeadsTo spec.path place) : s.addAll w' specs = s.addAll w specs := by
  induction specs generalizing s with
  | nil => rfl
  | cons spec specs ih =>
    rw [addAll, addAll, CertEntry.load_eq h _ (hp spec List.mem_cons_self)]
    simp only [ih _ fun spec hs ↦ hp spec (List.mem_cons_of_mem _ hs)]

end CertStore

end ProxySettings
