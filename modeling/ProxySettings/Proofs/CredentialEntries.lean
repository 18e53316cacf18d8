import ProxySettings.Proofs.CredentialFile
import ProxySettings.Proofs.PasswordCheck

/-!
# The entries of files of credentials

Every entry of a file that is read comes from a line of the file, and its hash has the form of the
scheme that is kept with it. The last entry of a user answers to the user's passwords.
-/

namespace ProxySettings.Htpasswd

/-- A line holds an entry exactly if it is a user that is not empty, the first colon, and a hash
with the form of the entry's scheme. -/
theorem parseLine_eq_ok_iff {line user hash : String} {scheme : HashScheme} :
    parseLine line = .ok (user, scheme, hash) ↔ line = user ++ ":" ++ hash ∧ ':' ∉ user.toList ∧
      user ≠ "" ∧ PasswordHash.HasForm hash scheme := by
  rw [parseLine, ← PasswordHash.scheme_eq_ok_iff]
  constructor
  · intro h
    split at h
    · cases h
    · next u t hc =>
      obtain ⟨rfl, hu⟩ := Text.cut_eq_some_iff.mp hc
      split at h
      · cases h
      · next hne =>
        rw [String.isEmpty_iff] at hne
        split at h
        · next s hs =>
          simp only [Except.ok.injEq, Prod.mk.injEq] at h
          obtain ⟨rfl, rfl, rfl⟩ := h
          exact ⟨rfl, hu, hne, hs⟩
        · cases h
  · rintro ⟨rfl, hu, hne, hs⟩
    have hc : Text.cut ':' (user ++ ":" ++ hash) = some (user, hash) :=
      Text.cut_eq_some_iff.mpr ⟨rfl, hu⟩
    have he : ¬user.isEmpty = true := by rwa [String.isEmpty_iff]
    rw [hc]
    simp only [he, hs, Bool.false_eq_true, ↓reduceIte]

/-- The entry of the first line stands before those of the other lines. -/
theorem parseLines_cons {number : Nat} {line : String} {rest : List String}
    {entry : String × HashScheme × String} {entries : List (String × HashScheme × String)}
    (hs : isSkipped (Text.trim line) = false) (hp : parseLine (Text.trim line) = .ok entry)
    (hr : parseLines (number + 1) rest = .ok entries) :
    parseLines number (line :: rest) = .ok (entry :: entries) := by
  rw [parseLines, hs, if_neg Bool.false_ne_true, hp, hr]
  rfl

/-- Every entry is that of a line. -/
theorem exists_line_of_mem {number : Nat} {lines : List String}
    {entries : List (String × HashScheme × String)} (h : parseLines number lines = .ok entries)
    {entry : String × HashScheme × String} (he : entry ∈ entries) :
    ∃ line ∈ lines, parseLine (Text.trim line) = .ok entry := by
  induction lines generalizing number entries with
  | nil =>
    rw [← Except.ok.inj h] at he
    exact absurd he List.not_mem_nil
  | cons line rest ih =>
    rw [parseLines] at h
    by_cases hs : isSkipped (Text.trim line) = true
    · rw [if_pos hs] at h
      obtain ⟨l, hl, hp⟩ := ih h he
      exact ⟨l, List.mem_cons_of_mem line hl, hp⟩
    · rw [if_neg hs] at h
      split at h
      · next first hf =>
        cases hr : parseLines (number + 1) rest with
        | error fault =>
          rw [hr] at h
          cases h
        | ok others =>
          rw [hr] at h
          rw [← Except.ok.inj h] at he
          rcases List.mem_cons.mp he with rfl | he
          · exact ⟨line, List.mem_cons_self, hf⟩
          · obtain ⟨l, hl, hp⟩ := ih hr he
            exact ⟨l, List.mem_cons_of_mem line hl, hp⟩
      · cases h

/-- A file of text is read line by line. -/
theorem result_load_of_text {w : World} {path text : String}
    (hf : w.find path = .ok (.file (Utf8.encode text))) : (load w path).result =
      ((parseLines 1 (Text.lines text)).map (Htpasswd.mk path)).mapError .credentials := by
  have hr : readText w path = .ok text := by
    rw [readText_eq, hf]
    simp only [Utf8.decode?_encode]
  rw [result_load, hr]
  rfl

/-- A file of text with entries in its lines is loaded with these entries. -/
theorem load_of_text {w : World} {path text : String}
    {entries : List (String × HashScheme × String)}
    (hf : w.find path = .ok (.file (Utf8.encode text)))
    (hp : parseLines 1 (Text.lines text) = .ok entries) :
    (load w path).result = .ok ⟨path, entries⟩ := by
  rw [result_load_of_text hf, hp]
  rfl

/-- A file that is loaded keeps hashes with the forms of their schemes. -/
theorem hasForm_of_mem {w : World} {path : String} {file : Htpasswd}
    (h : (load w path).result = .ok file) {user hash : String} {scheme : HashScheme}
    (he : (user, scheme, hash) ∈ file.entries) : PasswordHash.HasForm hash scheme := by
  rw [result_load] at h
  obtain ⟨text, -, h⟩ := exists_of_bind_eq_ok h
  cases hp : parseLines 1 (Text.lines text) with
  | error fault =>
    rw [hp] at h
    cases h
  | ok entries =>
    rw [hp] at h
    rw [← Except.ok.inj h] at he
    obtain ⟨line, -, hl⟩ := exists_line_of_mem hp he
    exact (parseLine_eq_ok_iff.mp hl).2.2.2

/-- The entry that counts for a user is one of the file, and the user's last one. -/
theorem entry?_eq_some_iff {file : Htpasswd} {user hash : String} {scheme : HashScheme} :
    file.entry? user = some (scheme, hash) ↔ ∃ before after,
      file.entries = before ++ (user, scheme, hash) :: after ∧ ∀ entry ∈ after, entry.1 ≠ user := by
  unfold entry?
  rw [List.lookup_eq_some_iff]
  constructor
  · rintro ⟨after, before, he, ha⟩
    refine ⟨before.reverse, after.reverse, ?_, fun entry hm ↦ ?_⟩
    · rw [← List.reverse_reverse file.entries, he]
      simp
    · exact (bne_iff_ne.mp (ha entry (List.mem_reverse.mp hm))).symm
  · rintro ⟨before, after, he, ha⟩
    refine ⟨after.reverse, before.reverse, ?_, fun entry hm ↦ ?_⟩
    · rw [he]
      simp
    · exact bne_iff_ne.mpr (ha entry (List.mem_reverse.mp hm)).symm

theorem mem_of_entry?_eq_some {file : Htpasswd} {user hash : String} {scheme : HashScheme}
    (h : file.entry? user = some (scheme, hash)) : (user, scheme, hash) ∈ file.entries := by
  obtain ⟨before, after, he, -⟩ := entry?_eq_some_iff.mp h
  rw [he]
  exact List.mem_append_right before List.mem_cons_self

end ProxySettings.Htpasswd
