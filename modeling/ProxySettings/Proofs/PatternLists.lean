import Mathlib.Data.Bool.AllAny
import ProxySettings.HostMatcher
import ProxySettings.Proofs.LiteralPattern
import ProxySettings.Proofs.LoadedStore
import ProxySettings.Proofs.PatternSearch

/-!
# Lists of patterns

A list of patterns matches what one of them matches. Whether it compiles, and what it matches, is
decided by each pattern alone: the order of the patterns and their repetition do not count, and a
further pattern only adds to what is matched.
-/

namespace ProxySettings

namespace Pattern

/-- The expression of a pattern's text that is read under some flags. -/
def readUnder (f : Flags) (text : List Char) : Option (Expr Atom) := do
  let s ← State.run (text.length + 1) ⟨f, ⟨[], [], false, f⟩, [], []⟩ text
  guard s.outer.isEmpty
  let whole := s.current.choice
  guard (whole.depth ≤ nestingLimit)
  return whole.expr

/-- The flags under which letters stand for both of their cases, and no other flag has its meaning
changed. -/
def Flags.caseInsensitive : Flags where
  anyCase := true
  perLine := false
  dotAll := false
  returns := false
  unicode := true
  spaced := false

theorem read?_eq_readUnder : read? = readUnder .caseInsensitive := rfl

/-- A search finds an expression exactly if it matches some part of the text, at its place there. -/
theorem Expr.search_eq_true_iff_exists_part {e : Expr Atom} {text : List Char} :
    e.search text = true ↔ ∃ before part after, text = before ++ part ++ after ∧
      e.Spans text before.length (before ++ part).length := by
  rw [search_eq_true_iff]
  constructor
  · rintro ⟨i, j, hi, h⟩
    have hij : i ≤ j ∧ j ≤ text.length := by
      have := e.isForward_spans i j h
      omega
    have hpart : text.take i ++ (text.drop i).take (j - i) = text.take j := by
      rw [← List.take_add, Nat.add_sub_cancel' hij.1]
    refine ⟨text.take i, (text.drop i).take (j - i), text.drop j, ?_, ?_⟩
    · rw [hpart, List.take_append_drop]
    · rw [hpart, List.length_take_of_le hij.2, List.length_take_of_le hi]
      exact h
  · rintro ⟨before, part, after, rfl, h⟩
    exact ⟨_, _, by simp, h⟩

end Pattern

namespace HostPattern

/-- A pattern, read without regard to case, matches some part of a host's text. -/
def Finds (text host : String) (port : UInt16) : Prop :=
  ∃ expr, Pattern.readUnder .caseInsensitive text.toList = some expr ∧
    ∃ before part after, (host ++ ":" ++ toString port.toNat).toList = before ++ part ++ after ∧
      expr.Spans (before ++ part ++ after) before.length (before ++ part).length

theorem finds_iff {text host : String} {port : UInt16} : Finds text host port ↔
    ∃ expr, Pattern.read? text.toList = some expr ∧
      expr.search (subject host port).toList = true := by
  simp only [Finds, Pattern.read?_eq_readUnder, Pattern.Expr.search_eq_true_iff_exists_part,
    subject]
  refine exists_congr fun expr ↦ and_congr_right fun _ ↦ ?_
  constructor
  · rintro ⟨before, part, after, ht, hs⟩
    exact ⟨before, part, after, ht, ht ▸ hs⟩
  · rintro ⟨before, part, after, ht, hs⟩
    exact ⟨before, part, after, ht, ht ▸ hs⟩

theorem isFound_iff_finds {text : String} {p : HostPattern} (h : compile text = .ok p)
    {host : String} {port : UInt16} : p.isFound host port = true ↔ Finds text host port := by
  obtain ⟨-, hread, -⟩ := compile_eq_ok_iff.mp h
  rw [finds_iff, hread, isFound]
  simp

theorem compile_eq_error_iff {text : String} {e : ConfigError} :
    compile text = .error e ↔ (∀ p, compile text ≠ .ok p) ∧ e = .hostPattern text := by
  rw [compile]
  cases compile? text with
  | none => simp [eq_comm]
  | some p => simp

end HostPattern

namespace HostMatcher

variable {P Q : List String} {p q m : HostMatcher}

theorem exists_ofTexts_iff :
    (∃ m, ofTexts P = .ok m) ↔ ∀ text ∈ P, ∃ p, HostPattern.compile text = .ok p := by
  rw [← exists_mapM_eq_ok_iff, ofTexts]
  cases P.mapM HostPattern.compile with
  | error e => simp [Except.map]
  | ok patterns => simp [Except.map]

/-- A list of one pattern compiles exactly if the pattern does. -/
theorem exists_ofTexts_singleton_iff {text : String} :
    (∃ m, ofTexts [text] = .ok m) ↔ ∃ p, HostPattern.compile text = .ok p := by
  rw [exists_ofTexts_iff, List.forall_mem_singleton]

/-- Lists compile together exactly if each of them does. -/
theorem exists_ofTexts_append_iff : (∃ m, ofTexts (P ++ Q) = .ok m) ↔
    (∃ p, ofTexts P = .ok p) ∧ ∃ q, ofTexts Q = .ok q := by
  simp only [exists_ofTexts_iff, List.forall_mem_append]

theorem ofTexts_eq_error_iff {e : ConfigError} : ofTexts P = .error e ↔
    ∃ before text after, P = before ++ text :: after ∧
      (∀ t ∈ before, ∃ m, ofTexts [t] = .ok m) ∧ (∀ m, ofTexts [text] ≠ .ok m) ∧
      e = .hostPattern text := by
  have hmap : ofTexts P = .error e ↔ P.mapM HostPattern.compile = .error e := by
    rw [ofTexts]
    cases P.mapM HostPattern.compile <;> simp [Except.map]
  simp only [hmap, mapM_eq_error_iff, HostPattern.compile_eq_error_iff,
    exists_ofTexts_singleton_iff, ← not_exists, ne_eq]

/-- A matcher has the texts that it was made of. -/
theorem texts_of_ofTexts (h : ofTexts P = .ok m) : m.texts = P := by
  obtain ⟨patterns, hp, rfl⟩ := exists_of_map_eq_ok h
  rw [mapM_eq_ok_iff] at hp
  rw [texts]
  clear h
  induction hp with
  | nil => rfl
  | cons hc _ ih => rw [List.map_cons, ih, (HostPattern.compile_eq_ok_iff.mp hc).1]

theorem isActive_eq_false_iff (h : ofTexts P = .ok m) : m.isActive = false ↔ P = [] := by
  rw [← texts_of_ofTexts h, isActive, texts, List.map_eq_nil_iff, Bool.not_eq_false',
    List.isEmpty_iff]

/-- A matcher matches what one of its patterns is found in. -/
theorem isMatch_iff_finds (h : ofTexts P = .ok m) {host : String} {port : UInt16} :
    m.isMatch host port = true ↔ ∃ text ∈ P, HostPattern.Finds text host port := by
  obtain ⟨patterns, hp, rfl⟩ := exists_of_map_eq_ok h
  rw [mapM_eq_ok_iff] at hp
  clear h
  rw [isMatch]
  induction hp with
  | nil => simp
  | cons hc _ ih =>
    rw [List.any_cons, Bool.or_eq_true, HostPattern.isFound_iff_finds hc, ih]
    simp

/-- What a list of patterns matches grows with the list. -/
theorem isMatch_of_subset (hp : ofTexts P = .ok p) (hq : ofTexts Q = .ok q) (h : P ⊆ Q)
    {host : String} {port : UInt16} (hm : p.isMatch host port = true) :
    q.isMatch host port = true := by
  obtain ⟨text, ht, hf⟩ := (isMatch_iff_finds hp).mp hm
  exact (isMatch_iff_finds hq).mpr ⟨text, h ht, hf⟩

/-- Patterns compile together exactly if each list of them does, and otherwise the first pattern
that does not compile by itself is named. Together they are kept as they were given and match what
one list or the other matches. A part of a list of patterns, in whatever order and however often,
compiles with it and matches no more; if it has all patterns of the list it matches the same. A
matcher without patterns is inactive, and matches nothing. A single pattern matches a host exactly
if it is found, without regard to case, somewhere in the host and port. -/
theorem decided_pattern_by_pattern (P Q : List String) :
    ((∃ m, ofTexts (P ++ Q) = .ok m) ↔
        (∃ p, ofTexts P = .ok p) ∧ ∃ q, ofTexts Q = .ok q) ∧
      (∀ e, ofTexts (P ++ Q) = .error e ↔ ∃ before text after,
        P ++ Q = before ++ text :: after ∧ (∀ t ∈ before, ∃ m, ofTexts [t] = .ok m) ∧
        (∀ m, ofTexts [text] ≠ .ok m) ∧ e = .hostPattern text) ∧
      (∀ m, ofTexts (P ++ Q) = .ok m → m.texts = P ++ Q ∧
        ∃ p q, ofTexts P = .ok p ∧ ofTexts Q = .ok q ∧
          ∀ host port, m.isMatch host port = (p.isMatch host port || q.isMatch host port)) ∧
      (∀ q, ofTexts Q = .ok q → P ⊆ Q → ∃ p, ofTexts P = .ok p ∧
        (∀ host port, p.isMatch host port = true → q.isMatch host port = true) ∧
        (Q ⊆ P → ∀ host port, p.isMatch host port = q.isMatch host port)) ∧
      (∀ p, ofTexts P = .ok p → (p.isActive = false ↔ P = []) ∧
        (p.isActive = false → ∀ host port, p.isMatch host port = false)) ∧
      ∀ text p, ofTexts [text] = .ok p → ∀ host port,
        p.isMatch host port = true ↔ HostPattern.Finds text host port := by
  refine ⟨exists_ofTexts_append_iff, fun e ↦ ofTexts_eq_error_iff, fun m hm ↦ ?_,
    fun q hq hsub ↦ ?_, fun p hp ↦ ⟨isActive_eq_false_iff hp, fun ha host port ↦ ?_⟩,
    fun text p hp host port ↦ ?_⟩
  · obtain ⟨⟨p, hp⟩, q, hq⟩ := exists_ofTexts_append_iff.mp ⟨m, hm⟩
    refine ⟨texts_of_ofTexts hm, p, q, hp, hq, fun host port ↦ ?_⟩
    rw [Bool.eq_iff_iff, Bool.or_eq_true, isMatch_iff_finds hm, isMatch_iff_finds hp,
      isMatch_iff_finds hq]
    simp only [List.mem_append, or_and_right, exists_or]
  · obtain ⟨p, hp⟩ : ∃ p, ofTexts P = .ok p := by
      rw [exists_ofTexts_iff]
      exact fun text ht ↦ exists_ofTexts_iff.mp ⟨q, hq⟩ text (hsub ht)
    refine ⟨p, hp, fun host port ↦ isMatch_of_subset hp hq hsub, fun hsup host port ↦ ?_⟩
    rw [Bool.eq_iff_iff]
    exact ⟨isMatch_of_subset hp hq hsub, isMatch_of_subset hq hp hsup⟩
  · rw [Bool.eq_false_iff, ne_eq, isMatch_iff_finds hp, (isActive_eq_false_iff hp).mp ha]
    simp
  · rw [isMatch_iff_finds hp]
    simp

/-- Patterns of two hosts, and with them one whose group is not closed. -/
theorem decided_pattern_by_pattern_sample :
    ∃ m p q, ofTexts (["^a\\.test:1$"] ++ ["^b\\.test:2$"]) = .ok m ∧
      ofTexts ["^a\\.test:1$"] = .ok p ∧ ofTexts ["^b\\.test:2$"] = .ok q ∧
      m.texts = ["^a\\.test:1$", "^b\\.test:2$"] ∧ p.isActive = true ∧
      (∀ host port, m.isMatch host port = (p.isMatch host port || q.isMatch host port)) ∧
      ofTexts (["^a\\.test:1$"] ++ ["(unclosed", ")"]) = .error (.hostPattern "(unclosed") := by
  have hname : ∀ c ∈ "a.test".toList ++ "b.test".toList, HostPattern.IsNameChar c :=
    List.all_iff_forall_prop.mp (by decide)
  have ha : ∃ p, ofTexts ["^a\\.test:1$"] = .ok p :=
    exists_ofTexts_singleton_iff.mpr (@HostPattern.exists_compile_literal "a.test"
      (fun c hc ↦ hname c (List.mem_append_left _ hc)) (by decide) 1)
  have hb : ∃ q, ofTexts ["^b\\.test:2$"] = .ok q :=
    exists_ofTexts_singleton_iff.mpr (@HostPattern.exists_compile_literal "b.test"
      (fun c hc ↦ hname c (List.mem_append_right _ hc)) (by decide) 2)
  have hopen (m : HostMatcher) : ofTexts ["(unclosed"] ≠ .ok m := by
    have hread : Pattern.read? "(unclosed".toList = none := rfl
    rw [ofTexts_singleton, HostPattern.compile, HostPattern.compile?, hread]
    rintro ⟨⟩
  obtain ⟨hok, -, happend, -, hactive, -⟩ :=
    decided_pattern_by_pattern ["^a\\.test:1$"] ["^b\\.test:2$"]
  obtain ⟨m, hm⟩ := hok.mpr ⟨ha, hb⟩
  obtain ⟨htexts, p, q, hp, hq, hmatch⟩ := happend m hm
  refine ⟨m, p, q, hm, hp, hq, htexts, ?_, hmatch, ?_⟩
  · rw [← Bool.not_eq_false, (hactive p hp).1]
    exact List.cons_ne_nil _ _
  · refine ((decided_pattern_by_pattern _ _).2.1 _).mpr
      ⟨["^a\\.test:1$"], "(unclosed", [")"], rfl, ?_, hopen, rfl⟩
    intro t ht
    rwa [List.mem_singleton.mp ht]

end HostMatcher

end ProxySettings
