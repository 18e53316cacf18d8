import ProxySettings.Proofs.CredentialEntries
import ProxySettings.Proofs.Lists
import ProxySettings.Proofs.Lines
import ProxySettings.Proofs.PathWalk

/-!
# The grammar of files of credentials

A file of credentials is lines. Blank lines and comments hold nothing, and every other line has to
hold a user, a colon and a hash in one of the forms of hashes. A file is loaded exactly if all its
lines fit, and refused for its first line that does not; of the lines that hold a user the last one
answers to the user's passwords.
-/

namespace ProxySettings

/-! ## Hashes -/

namespace PasswordHash

/-- A hash of a file: the mark of SHA-1 with the base64 text of twenty bytes, a dollar sign with the
name of a known scheme, or a text with neither beginning. -/
def IsWellFormed (hash : String) : Prop :=
  (∃ (digest : List UInt8) (text : String), digest.length = 20 ∧ hash = shaMark ++ text ∧
      Utf8.encode text = Base64.encode digest) ∨
    (∃ name ∈ ["apr1", "2a", "2b", "2y"], Names hash name) ∨ IsUnmarked hash

/-- The well-formed hashes are those with the form of some scheme. -/
theorem isWellFormed_iff {hash : String} : IsWellFormed hash ↔ ∃ s, HasForm hash s := by
  simp only [IsWellFormed, List.mem_cons, List.not_mem_nil, or_false, exists_eq_or_imp,
    exists_eq_left]
  constructor
  · rintro (h | (h | h | h | h) | h)
    · exact ⟨.sha1, h⟩
    · exact ⟨.apr1, h⟩
    · exact ⟨.bcrypt, .inl h⟩
    · exact ⟨.bcrypt, .inr (.inl h)⟩
    · exact ⟨.bcrypt, .inr (.inr h)⟩
    · exact ⟨_, scheme_eq_ok_iff.mp (scheme_unmarked h)⟩
  · rintro ⟨s, h⟩
    cases s with
    | sha1 => exact .inl h
    | apr1 => exact .inr (.inl (.inl h))
    | bcrypt => exact .inr (.inl (.inr h))
    | crypt => exact .inr (.inr h.1)
    | plain => exact .inr (.inr h.1)

/-- The answer of a hash to a password: a hash without the form of any algorithm is the password
itself. -/
def answer (hash password : String) : Verdict :=
  match scheme hash with
  | .ok .plain => .ofBool (hash == password)
  | _ => check hash password

end PasswordHash

namespace Htpasswd

/-! ## Lines -/

/-- A line that holds nothing: it is blank or a comment, apart from blanks at its ends. -/
def IsIdle (line : String) : Prop := Text.trim line = "" ∨ ∃ rest, Text.trim line = "#" ++ rest

/-- A line holds the hash of a user: apart from blanks at its ends, it is the user, the first colon
and a well-formed hash. -/
def Holds (line user hash : String) : Prop :=
  ¬IsIdle line ∧ Text.trim line = user ++ ":" ++ hash ∧ ':' ∉ user.toList ∧ user ≠ "" ∧
    PasswordHash.IsWellFormed hash

/-- A line of a file that can be loaded. -/
def Fits (line : String) : Prop := IsIdle line ∨ ∃ user hash, Holds line user hash

/-- The entry that a line holds. -/
def held? (line : String) : Option (String × HashScheme × String) :=
  if isSkipped (Text.trim line) then none else (parseLine (Text.trim line)).toOption

theorem isSkipped_trim_iff {line : String} : isSkipped (Text.trim line) = true ↔ IsIdle line := by
  have hhead : (Text.trim line).toList.head? = some '#' ↔ ∃ rest, Text.trim line = "#" ++ rest := by
    rw [List.head?_eq_some_iff]
    constructor
    · rintro ⟨rest, h⟩
      exact ⟨String.ofList rest, by rw [← String.toList_inj, h]; simp⟩
    · rintro ⟨rest, h⟩
      exact ⟨rest.toList, by rw [h, String.toList_append]; rfl⟩
  rw [isSkipped, Bool.or_eq_true, String.isEmpty_iff, beq_iff_eq, hhead, IsIdle]

theorem held?_eq_some_iff {line user hash : String} {scheme : HashScheme} :
    held? line = some (user, scheme, hash) ↔
      Holds line user hash ∧ PasswordHash.HasForm hash scheme := by
  have hparse : (parseLine (Text.trim line)).toOption = some (user, scheme, hash) ↔
      parseLine (Text.trim line) = .ok (user, scheme, hash) := by
    cases parseLine (Text.trim line) <;> simp [Except.toOption]
  rw [held?, Holds, ← isSkipped_trim_iff, PasswordHash.isWellFormed_iff]
  split
  · next hs => simp [hs]
  · next hs =>
    rw [hparse, parseLine_eq_ok_iff]
    constructor
    · rintro ⟨ht, hu, hne, hf⟩
      exact ⟨⟨hs, ht, hu, hne, scheme, hf⟩, hf⟩
    · rintro ⟨⟨-, ht, hu, hne, -⟩, hf⟩
      exact ⟨ht, hu, hne, hf⟩

theorem exists_held?_iff {line user hash : String} :
    (∃ scheme, held? line = some (user, scheme, hash)) ↔ Holds line user hash := by
  simp only [held?_eq_some_iff, exists_and_left, and_iff_left_iff_imp]
  exact fun h ↦ PasswordHash.isWellFormed_iff.mp h.2.2.2.2

/-- The lines without a fault are those that fit. -/
theorem lineFault?_eq_none_iff {line : String} : lineFault? line = none ↔ Fits line := by
  have hentry : (∃ user hash, Holds line user hash) ↔ ∃ entry, held? line = some entry := by
    simp only [← exists_held?_iff]
    constructor
    · rintro ⟨user, hash, scheme, h⟩
      exact ⟨_, h⟩
    · rintro ⟨⟨user, scheme, hash⟩, h⟩
      exact ⟨user, hash, scheme, h⟩
  rw [Fits, hentry, ← isSkipped_trim_iff, lineFault?, held?]
  split
  · next hs => simp [hs]
  · next hs => cases parseLine (Text.trim line) <;> simp [hs, Except.toOption]

/-- Lines without faults are read as the entries that they hold. -/
theorem parseLines_eq_ok_iff {number : Nat} {lines : List String}
    {entries : List (String × HashScheme × String)} :
    parseLines number lines = .ok entries ↔
      (∀ line ∈ lines, lineFault? line = none) ∧ entries = lines.filterMap held? := by
  induction lines generalizing number entries with
  | nil => simp [parseLines, eq_comm]
  | cons line rest ih =>
    rw [parseLines, List.forall_mem_cons, List.filterMap_cons, lineFault?, held?]
    split
    · next hs => simp only [ih, true_and]
    · next hs =>
      cases parseLine (Text.trim line) with
      | error fault => simp
      | ok entry =>
        have hrest : (∀ l ∈ rest, lineFault? l = none) ↔
            parseLines (number + 1) rest = .ok (rest.filterMap held?) := by
          rw [ih, and_iff_left rfl]
        simp only [Except.toOption, true_and, hrest]
        cases hr : parseLines (number + 1) rest with
        | error fault => simp [Except.map]
        | ok others =>
          rw [(ih.mp hr).2]
          simp [Except.map, eq_comm]

/-! ## Users -/

variable {lines : List String} {path user hash : String}

/-- The users of the entries of lines are those whose hashes the lines hold. -/
theorem mem_users_iff : user ∈ users ⟨path, lines.filterMap held?⟩ ↔
    ∃ line ∈ lines, ∃ hash, Holds line user hash := by
  simp only [users, List.mem_eraseDups, List.mem_map, List.mem_filterMap, ← exists_held?_iff]
  constructor
  · rintro ⟨⟨user, scheme, hash⟩, ⟨line, hl, he⟩, rfl⟩
    exact ⟨line, hl, hash, scheme, he⟩
  · rintro ⟨line, hl, hash, scheme, he⟩
    exact ⟨(user, scheme, hash), ⟨line, hl, he⟩, rfl⟩

/-- The users of a file are counted once each. -/
theorem length_users_eq {file : Htpasswd} {names : List String} (hn : names.Nodup)
    (h : ∀ user, user ∈ file.users ↔ user ∈ names) : file.users.length = names.length :=
  ((List.perm_ext_iff_of_nodup (nodup_eraseDups _) hn).mpr h).length_eq

/-- A user without a line is rejected. -/
theorem test_of_no_line (h : ∀ line ∈ lines, ∀ hash, ¬Holds line user hash) (password : String) :
    test ⟨path, lines.filterMap held?⟩ user password = .rejected := by
  have he : entry? ⟨path, lines.filterMap held?⟩ user = none := by
    rw [Option.eq_none_iff_forall_ne_some]
    rintro ⟨scheme, hash⟩ he
    obtain ⟨line, hl, hline⟩ := List.mem_filterMap.mp (mem_of_entry?_eq_some he)
    exact h line hl hash (exists_held?_iff.mp ⟨scheme, hline⟩)
  rw [test, he]

/-- The last line of a user answers. -/
theorem test_of_last_line {before after : List String} {line : String} (hh : Holds line user hash)
    (ha : ∀ l ∈ after, ∀ other, ¬Holds l user other) (password : String) :
    test ⟨path, (before ++ line :: after).filterMap held?⟩ user password =
      PasswordHash.answer hash password := by
  obtain ⟨scheme, hs⟩ := exists_held?_iff.mpr hh
  have he : entry? ⟨path, (before ++ line :: after).filterMap held?⟩ user =
      some (scheme, hash) := by
    refine entry?_eq_some_iff.mpr
      ⟨before.filterMap held?, after.filterMap held?, ?_, fun entry hm hu ↦ ?_⟩
    · rw [List.filterMap_append, List.filterMap_cons, hs]
    · obtain ⟨l, hl, hline⟩ := List.mem_filterMap.mp hm
      obtain ⟨owner, other, h⟩ := entry
      obtain rfl : owner = user := hu
      exact ha l hl h (exists_held?_iff.mp ⟨other, hline⟩)
  have hform := PasswordHash.scheme_eq_ok_iff.mpr (held?_eq_some_iff.mp hs).2
  rw [test, he, PasswordHash.answer, hform]
  cases scheme <;> rfl

/-! ## Files -/

/-- A text file is loaded exactly if all its lines fit, as the entries that they hold. -/
theorem load_eq_ok_iff_of_text {w : World} {text : String}
    (hf : w.find path = .ok (.file (Utf8.encode text))) (hl : Text.HasLines text lines)
    {file : Htpasswd} : (load w path).result = .ok file ↔
      (∀ line ∈ lines, Fits line) ∧ file = ⟨path, lines.filterMap held?⟩ := by
  have hread {entries} : parseLines 1 lines = .ok entries ↔ _ := parseLines_eq_ok_iff
  simp only [← lineFault?_eq_none_iff]
  rw [result_load_of_text hf, Text.lines_eq_iff.mpr hl]
  cases hp : parseLines 1 lines with
  | error fault =>
    have hn : ¬∀ line ∈ lines, lineFault? line = none := by
      intro h
      rw [hread.mpr ⟨h, rfl⟩] at hp
      cases hp
    simp [Except.map, Except.mapError, hn]
  | ok entries =>
    obtain ⟨hall, rfl⟩ := hread.mp hp
    simp only [Except.map, Except.mapError, Except.ok.injEq]
    exact ⟨fun h ↦ ⟨hall, h.symm⟩, fun h ↦ h.2.symm⟩

/-- A text file is refused for its first line that does not fit. -/
theorem load_eq_error_iff_of_text {w : World} {text : String}
    (hf : w.find path = .ok (.file (Utf8.encode text))) (hl : Text.HasLines text lines)
    {e : ConfigError} : (load w path).result = .error e ↔ ∃ before line after fault,
      lines = before ++ line :: after ∧ (∀ l ∈ before, Fits l) ∧ ¬Fits line ∧
        lineFault? line = some fault ∧ e = .credentials (.malformed (before.length + 1) fault) := by
  have hread {fault} : parseLines 1 lines = .error fault ↔ _ := parseLines_eq_error_iff
  simp only [← lineFault?_eq_none_iff]
  rw [result_load_of_text hf, Text.lines_eq_iff.mpr hl]
  have herror : ((parseLines 1 lines).map (Htpasswd.mk path)).mapError .credentials = .error e ↔
      ∃ fault, parseLines 1 lines = .error fault ∧ e = .credentials fault := by
    cases parseLines 1 lines <;> simp [Except.map, Except.mapError, eq_comm]
  rw [herror]
  constructor
  · rintro ⟨_, hp, rfl⟩
    obtain ⟨before, line, after, fault, hs, hb, hfault, rfl⟩ := hread.mp hp
    exact ⟨before, line, after, fault, hs, hb, by simp [hfault], hfault, rfl⟩
  · rintro ⟨before, line, after, fault, hs, hb, -, hfault, rfl⟩
    exact ⟨_, hread.mpr ⟨before, line, after, fault, hs, hb, hfault, rfl⟩, rfl⟩

/-- The refusal of a line names the number of the line. -/
theorem exists_message_malformed (number : Nat) (fault : Option HashFault) :
    ∃ detail, ∀ wording, (ConfigError.credentials (.malformed number fault)).message wording =
      "Malformed htpasswd file at line " ++ toString number ++ detail := by
  cases fault with
  | none => exact ⟨"", fun _ ↦ String.append_empty.symm⟩
  | some fault => exact ⟨": " ++ fault.message, fun _ ↦ String.append_assoc⟩

/-- A file of credentials follows the grammar: it is loaded exactly if every line fits, and is else
refused for the first line that does not, counted from one over all lines. The users of a loaded
file are those of its lines, each one once; a user without a line is rejected, and the hash of a
user's last line alone answers to a password. -/
theorem load_follows_grammar {w : World} {path text : String} {lines : List String}
    (hf : w.find path = .ok (.file (Utf8.encode text))) (hl : Text.HasLines text lines) :
    ((∃ file, (load w path).result = .ok file) ↔ ∀ line ∈ lines, Fits line) ∧
    (∀ e, (load w path).result = .error e ↔ ∃ before line after fault,
      lines = before ++ line :: after ∧ (∀ l ∈ before, Fits l) ∧ ¬Fits line ∧
        lineFault? line = some fault ∧ e = .credentials (.malformed (before.length + 1) fault)) ∧
    (∀ number fault, ∃ detail, ∀ wording,
      (ConfigError.credentials (.malformed number fault)).message wording =
        "Malformed htpasswd file at line " ++ toString number ++ detail) ∧
    ∀ file, (load w path).result = .ok file →
      (∀ user, user ∈ file.users ↔ ∃ line ∈ lines, ∃ hash, Holds line user hash) ∧
      (∀ names : List String, names.Nodup →
        (∀ user, user ∈ names ↔ ∃ line ∈ lines, ∃ hash, Holds line user hash) →
        file.users.length = names.length) ∧
      (∀ user, (∀ line ∈ lines, ∀ hash, ¬Holds line user hash) →
        ∀ password, file.test user password = .rejected) ∧
      ∀ before line after user hash, lines = before ++ line :: after → Holds line user hash →
        (∀ l ∈ after, ∀ other, ¬Holds l user other) →
        ∀ password, file.test user password = PasswordHash.answer hash password := by
  refine ⟨?_, fun e ↦ load_eq_error_iff_of_text hf hl, exists_message_malformed, fun file h ↦ ?_⟩
  · simp only [load_eq_ok_iff_of_text hf hl, exists_and_left, exists_eq, and_true]
  · obtain ⟨-, rfl⟩ := (load_eq_ok_iff_of_text hf hl).mp h
    refine ⟨fun user ↦ mem_users_iff, fun names hn hm ↦ ?_, fun user ↦ test_of_no_line, ?_⟩
    · exact length_users_eq hn fun user ↦ mem_users_iff.trans (hm user).symm
    · rintro before line after user hash rfl hh ha
      exact test_of_last_line hh ha

/-- A comment, a blank line, two lines of one user and one of another, with ends of both kinds. -/
def grammarText : String := "# users\r\n\nalice:one\nbob:two:three\r\n alice:four \n"

/-- A root directory with a file of these lines. -/
def grammarWorld : World :=
  ⟨[(["users"], .file (Utf8.encode grammarText))], .ok "/", some "/", []⟩

/-- Of two lines of a user the last one counts, without the blanks around it. -/
theorem load_follows_grammar_sample :
    grammarWorld.find "/users" = .ok (.file (Utf8.encode grammarText)) ∧
    Text.HasLines grammarText ["# users", "", "alice:one", "bob:two:three", " alice:four "] ∧
    ∃ file, (load grammarWorld "/users").result = .ok file ∧ file.users.length = 2 ∧
      file.test "alice" "four" = .accepted ∧ file.test "alice" "one" = .rejected := by
  have hf : grammarWorld.find "/users" = .ok (.file (Utf8.encode grammarText)) :=
    World.find_file_of_root ⟨rfl, rfl, by decide⟩ rfl (by decide) rfl
  have hl : Text.HasLines grammarText
      ["# users", "", "alice:one", "bob:two:three", " alice:four "] :=
    Text.lines_eq_iff.mp rfl
  obtain ⟨hload, -, -, hanswer⟩ := load_follows_grammar hf hl
  have hfits : ∀ line ∈ ["# users", "", "alice:one", "bob:two:three", " alice:four "],
      Fits line := by
    simp only [← lineFault?_eq_none_iff]
    decide +kernel
  have hh : Holds " alice:four " "alice" "four" := exists_held?_iff.mp ⟨.plain, rfl⟩
  obtain ⟨file, hfile⟩ := hload.mpr hfits
  have husers : file.users = ["alice", "bob"] := by
    rw [((load_eq_ok_iff_of_text hf hl).mp hfile).2]
    decide +kernel
  obtain ⟨hmem, hlength, -, hlast⟩ := hanswer file hfile
  have htest := hlast ["# users", "", "alice:one", "bob:two:three"] " alice:four " [] "alice"
    "four" rfl hh (by simp)
  refine ⟨hf, hl, file, hfile, hlength ["alice", "bob"] (by decide) fun user ↦ ?_,
    (htest "four").trans rfl, (htest "one").trans rfl⟩
  rw [← hmem, husers]

end Htpasswd

end ProxySettings
