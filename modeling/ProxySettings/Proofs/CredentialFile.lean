import ProxySettings.Proofs.Selection

/-!
# Files of credentials that cannot be used

A file of credentials is refused exactly if it is missing, is no file, is not text, or has a line
with a fault. The refusal names the first such line.
-/

namespace ProxySettings.Htpasswd

/-- What is wrong with a line, if anything is. -/
def lineFault? (line : String) : Option (Option HashFault) :=
  if isSkipped (Text.trim line) then none
  else
    match parseLine (Text.trim line) with
    | .ok _ => none
    | .error fault => some fault

/-- Why the file at a path cannot be used. -/
inductive Unusable (w : World) (path : String) : ConfigError → Prop where
  | missing (fault : World.IoFault) (h : w.find path = .error fault) :
      Unusable w path (.fileNotFound .htpasswd path)
  | notFile (entry : World.Entry) (h : w.find path = .ok entry)
      (hne : ∀ bytes, entry ≠ .file bytes) : Unusable w path (.notAFile .htpasswd path)
  | notText (bytes : List UInt8) (h : w.find path = .ok (.file bytes))
      (hu : Utf8.decode? bytes = none) : Unusable w path (.credentials (.unreadable path .notUtf8))
  | malformed (bytes : List UInt8) (text : String) (h : w.find path = .ok (.file bytes))
      (hu : Utf8.decode? bytes = some text) (before : List String) (line : String)
      (after : List String) (fault : Option HashFault)
      (hl : Text.lines text = before ++ line :: after) (hb : ∀ l ∈ before, lineFault? l = none)
      (hf : lineFault? line = some fault) :
      Unusable w path (.credentials (.malformed (before.length + 1) fault))

/-- A line without a fault is passed over or read. -/
theorem parseLines_of_lineFault?_eq_none {line : String} (h : lineFault? line = none) (number : Nat)
    (rest : List String) : ∃ read, parseLines number (line :: rest) =
      (parseLines (number + 1) rest).map (read ++ ·) := by
  rw [lineFault?] at h
  rw [parseLines]
  by_cases hs : isSkipped (Text.trim line) = true
  · refine ⟨[], ?_⟩
    rw [if_pos hs]
    cases parseLines (number + 1) rest <;> rfl
  · rw [if_neg hs] at h ⊢
    cases he : parseLine (Text.trim line) with
    | ok entry =>
      refine ⟨[entry], ?_⟩
      rfl
    | error fault =>
      rw [he] at h
      cases h

/-- A line with a fault ends the reading. -/
theorem parseLines_of_lineFault?_eq_some {line : String} {fault : Option HashFault}
    (h : lineFault? line = some fault) (number : Nat) (rest : List String) :
    parseLines number (line :: rest) = .error (.malformed number fault) := by
  rw [lineFault?] at h
  rw [parseLines]
  by_cases hs : isSkipped (Text.trim line) = true
  · rw [if_pos hs] at h
    cases h
  · rw [if_neg hs] at h ⊢
    cases he : parseLine (Text.trim line) with
    | ok entry =>
      rw [he] at h
      cases h
    | error fault' =>
      rw [he] at h
      rw [Option.some.inj h]

/-- Lines are refused for the first one with a fault. -/
theorem parseLines_eq_error_iff {number : Nat} {lines : List String} {e : CredentialFault} :
    parseLines number lines = .error e ↔ ∃ before line after fault,
      lines = before ++ line :: after ∧ (∀ l ∈ before, lineFault? l = none) ∧
        lineFault? line = some fault ∧ e = .malformed (before.length + number) fault := by
  induction lines generalizing number with
  | nil => simp [parseLines]
  | cons first rest ih =>
    cases hf : lineFault? first with
    | some fault =>
      rw [parseLines_of_lineFault?_eq_some hf]
      constructor
      · intro he
        refine ⟨[], first, rest, fault, rfl, fun l hl ↦ absurd hl List.not_mem_nil, hf, ?_⟩
        rw [List.length_nil, Nat.zero_add]
        exact (Except.error.inj he).symm
      · rintro ⟨before, line, after, fault', hl, hb, hf', rfl⟩
        cases before with
        | nil =>
          obtain ⟨rfl, rfl⟩ := List.cons.inj hl
          rw [Option.some.inj (hf.symm.trans hf'), List.length_nil, Nat.zero_add]
        | cons l before =>
          obtain ⟨rfl, rfl⟩ := List.cons.inj hl
          rw [hb _ List.mem_cons_self] at hf
          cases hf
    | none =>
      obtain ⟨read, hr⟩ := parseLines_of_lineFault?_eq_none hf number rest
      have he : parseLines number (first :: rest) = .error e ↔
          parseLines (number + 1) rest = .error e := by
        rw [hr]
        cases parseLines (number + 1) rest <;> simp [Except.map]
      rw [he, ih]
      constructor
      · rintro ⟨before, line, after, fault, rfl, hb, hl, rfl⟩
        refine ⟨first :: before, line, after, fault, rfl, ?_, hl, ?_⟩
        · exact List.forall_mem_cons.mpr ⟨hf, hb⟩
        · rw [List.length_cons, Nat.add_right_comm, Nat.add_assoc]
      · rintro ⟨before, line, after, fault, hl, hb, hf', rfl⟩
        cases before with
        | nil =>
          obtain ⟨rfl, rfl⟩ := List.cons.inj hl
          rw [hf] at hf'
          cases hf'
        | cons l before =>
          obtain ⟨rfl, rfl⟩ := List.cons.inj hl
          refine ⟨before, line, after, fault, rfl, (List.forall_mem_cons.mp hb).2, hf', ?_⟩
          rw [List.length_cons, Nat.add_right_comm, Nat.add_assoc]

/-- What a path leads to decides whether there is a text. -/
theorem readText_eq (w : World) (path : String) :
    readText w path =
      match w.find path with
      | .error _ => .error (.fileNotFound .htpasswd path)
      | .ok (.file bytes) =>
        match Utf8.decode? bytes with
        | some text => .ok text
        | none => .error (.credentials (.unreadable path .notUtf8))
      | .ok _ => .error (.notAFile .htpasswd path) := by
  rw [readText, World.doesExist, World.file?]
  cases w.find path with
  | error fault => rfl
  | ok entry =>
    cases entry with
    | dir => rfl
    | link target => rfl
    | file bytes =>
      simp only [World.decode]
      cases Utf8.decode? bytes <;> rfl

/-- A file is refused exactly if it cannot be used. -/
theorem load_eq_error_iff {w : World} {path : String} {e : ConfigError} :
    (load w path).result = .error e ↔ Unusable w path e := by
  rw [result_load, readText_eq]
  constructor
  · intro h
    cases hw : w.find path with
    | error fault =>
      rw [hw] at h
      obtain rfl := Except.error.inj h
      exact .missing fault hw
    | ok entry =>
      rw [hw] at h
      cases entry with
      | dir =>
        obtain rfl := Except.error.inj h
        exact .notFile .dir hw nofun
      | link target =>
        obtain rfl := Except.error.inj h
        exact .notFile (.link target) hw nofun
      | file bytes =>
        cases hu : Utf8.decode? bytes with
        | none =>
          simp only [hu] at h
          obtain rfl := Except.error.inj h
          exact .notText bytes hw hu
        | some text =>
          cases hp : parseLines 1 (Text.lines text) with
          | ok entries =>
            simp only [hu, bind, Except.bind, hp] at h
            cases h
          | error fault =>
            simp only [hu, bind, Except.bind, hp] at h
            obtain rfl := Except.error.inj h
            obtain ⟨before, line, after, fault, hl, hb, hf, rfl⟩ := parseLines_eq_error_iff.mp hp
            exact .malformed bytes text hw hu before line after fault hl hb hf
  · intro h
    cases h with
    | missing fault h =>
      rw [h]
      rfl
    | notFile entry h hne =>
      rw [h]
      cases entry with
      | dir => rfl
      | link target => rfl
      | file bytes => exact absurd rfl (hne bytes)
    | notText bytes h hu =>
      rw [h]
      simp only [hu]
      rfl
    | malformed bytes text h hu before line after fault hl hb hf =>
      have hp : parseLines 1 (Text.lines text) = .error (.malformed (before.length + 1) fault) :=
        parseLines_eq_error_iff.mpr ⟨before, line, after, fault, hl, hb, hf, rfl⟩
      rw [h]
      simp only [hu, bind, Except.bind, hp]
      rfl

end ProxySettings.Htpasswd
