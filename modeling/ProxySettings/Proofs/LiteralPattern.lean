import Mathlib.Data.List.Forall2
import ProxySettings.HostMatcher
import ProxySettings.Proofs.DecimalText
import ProxySettings.Proofs.Lists
import ProxySettings.Proofs.PatternSearch
import ProxySettings.Proofs.PatternSize
import ProxySettings.Proofs.Refusal
import ProxySettings.Proofs.Splitting

/-!
# Literal patterns

A pattern that writes down one host and one port, each dot escaped and both ends anchored, matches
this host and this port and no others, up to the case of letters.
-/

namespace ProxySettings

open Unicode (CharSet)

/-- A character of host names. -/
def HostPattern.IsNameChar (c : Char) : Prop := Text.isAlphanumeric c = true ∨ c = '-' ∨ c = '.'

instance : DecidablePred HostPattern.IsNameChar :=
  fun c ↦ inferInstanceAs (Decidable (Text.isAlphanumeric c = true ∨ c = '-' ∨ c = '.'))

/-- A character as it is written in a pattern, with dots escaped. -/
def Pattern.quoted (c : Char) : List Char := if c = '.' then ['\\', '.'] else [c]

/-- The pattern for one host and port. -/
def HostPattern.literal (host : String) (port : UInt16) : String :=
  "^" ++ String.ofList (host.toList.flatMap Pattern.quoted) ++ ":" ++ toString port.toNat ++ "$"

namespace Pattern

/-! ## Reading -/

/-- The characters that do not stand for themselves outside of classes. -/
def operators : List Char :=
  ['(', ')', '|', '[', '?', '*', '+', '\x7b', '\\', '.', '^', '$']

/-- A character that stands for itself once dots are escaped. -/
def IsQuotable (c : Char) : Prop := c = '.' ∨ c ∉ operators

/-- An atom as an item of a sequence. -/
def Piece.ofAtom (a : Atom) : Piece := ⟨.atom a, 0, true⟩

/-- The state after some more atoms. -/
def State.atoms (s : State) (as : List Atom) : State :=
  { s with current := { s.current with
      items := (as.map Piece.ofAtom).reverse ++ s.current.items } }

/-- The atom for a character of either case. -/
def Atom.ofChar (c : Char) : Atom := .char (.folded (.single c))

/-- The atoms of some characters between both ends of a text. -/
def anchored (cs : List Char) : List Atom :=
  .look .textStart :: cs.map .ofChar ++ [.look .textEnd]

namespace State

variable {s : State}

theorem atoms_cons (s : State) (a : Atom) (as : List Atom) :
    s.atoms (a :: as) = (s.atom a).atoms as := by
  simp only [atoms, atom, OpenGroup.atom, OpenGroup.push, Piece.ofAtom, List.map_cons,
    List.reverse_cons, List.append_assoc, List.singleton_append]

theorem atoms_singleton (s : State) (a : Atom) : s.atoms [a] = s.atom a := rfl

theorem atoms_append (s : State) (as bs : List Atom) :
    s.atoms (as ++ bs) = (s.atoms as).atoms bs := by
  simp only [atoms, List.map_append, List.reverse_append, List.append_assoc]

theorem step_of_not_operator {c : Char} (h : c ∉ operators) (s : State) (rest : List Char) :
    s.step c rest = (literal s.flags c false).map fun set ↦ (s.atom (.char set), rest) := by
  unfold step
  split
  -- The last case is that of the characters with no case of their own.
  case h_13 => rfl
  all_goals exact absurd (by decide) h

theorem step_start (hs : s.flags = .initial) (rest : List Char) :
    s.step '^' rest = some (s.atom (.look .textStart), rest) := by
  change some (s.atom (.look (if s.flags.perLine then _ else _)), rest) = _
  rw [hs]
  rfl

theorem step_end (hs : s.flags = .initial) (rest : List Char) :
    s.step '$' rest = some (s.atom (.look .textEnd), rest) := by
  change some (s.atom (.look (if s.flags.perLine then _ else _)), rest) = _
  rw [hs]
  rfl

theorem run_nil (hs : s.flags = .initial) (fuel : Nat) : run (fuel + 1) s [] = some s := by
  rw [run, hs]
  rfl

theorem run_cons (hs : s.flags = .initial) {s' : State} {c : Char} {rest rest' : List Char}
    (h : s.step c rest = some (s', rest')) (fuel : Nat) :
    run (fuel + 1) s (c :: rest) = run fuel s' rest' := by
  rw [run, hs]
  simp only [Flags.skip, Flags.initial, Bool.false_eq_true, if_false, h]

theorem run_end (hs : s.flags = .initial) (fuel : Nat) :
    run (fuel + 2) s ['$'] = some (s.atom (.look .textEnd)) := by
  rw [run_cons hs (step_end hs []), run_nil (s := s.atom _) hs]

/-- A quoted character is read as itself, in one round. -/
theorem run_quoted {c : Char} (hs : s.flags = .initial) (hc : IsQuotable c) (fuel : Nat)
    (rest : List Char) :
    run (fuel + 1) s (quoted c ++ rest) = run fuel (s.atom (.ofChar c)) rest := by
  rw [quoted]
  split
  · next h =>
    subst h
    refine run_cons hs ?_ fuel
    change some (s.atom (.char (s.flags.fold (.single '.'))), rest) = _
    rw [hs]
    rfl
  · next h =>
    refine run_cons hs ?_ fuel
    rw [step_of_not_operator (hc.resolve_left h), hs]
    rfl

theorem run_flatMap_quoted {cs : List Char} (hs : s.flags = .initial)
    (hcs : ∀ c ∈ cs, IsQuotable c) (fuel : Nat) (rest : List Char) :
    run (cs.length + fuel) s (cs.flatMap quoted ++ rest) =
      run fuel (s.atoms (cs.map .ofChar)) rest := by
  induction cs generalizing s with
  | nil => rw [List.length_nil, Nat.zero_add]; rfl
  | cons c cs ih =>
    obtain ⟨hc, hcs⟩ := List.forall_mem_cons.mp hcs
    rw [List.length_cons, Nat.add_right_comm, List.flatMap_cons, List.append_assoc,
      run_quoted hs hc, ih (s := s.atom _) hs hcs, List.map_cons, atoms_cons]

theorem run_anchored {cs : List Char} (hs : s.flags = .initial)
    (hcs : ∀ c ∈ cs, IsQuotable c) (fuel : Nat) :
    run (cs.length + (fuel + 2) + 1) s ('^' :: (cs.flatMap quoted ++ ['$'])) =
      some (s.atoms (anchored cs)) := by
  rw [run_cons hs (step_start hs _), run_flatMap_quoted (s := s.atom _) hs hcs,
    run_end (s := (s.atom _).atoms _) hs, ← atoms_cons, ← atoms_singleton, ← atoms_append, anchored]

end State

theorem OpenGroup.deepest_eq_zero {ps : List Piece} (h : ∀ p ∈ ps, p.depth = 0) :
    deepest ps = 0 := by
  rw [deepest]
  induction ps with
  | nil => rfl
  | cons p ps ih =>
    obtain ⟨hp, hps⟩ := List.forall_mem_cons.mp h
    rw [List.map_cons, List.foldl_cons, hp]
    exact ih hps

/-- Atoms after nothing are a sequence, which nests at most once. -/
theorem State.choice_atoms {s : State} (hi : s.current.items = []) (hb : s.current.branches = [])
    (as : List Atom) : (s.atoms as).current.choice.expr = .seqs (as.map .atom) ∧
      (s.atoms as).current.choice.depth ≤ 1 := by
  have hdepth : OpenGroup.deepest (as.map Piece.ofAtom).reverse = 0 := by
    apply OpenGroup.deepest_eq_zero
    simp only [List.mem_reverse, List.mem_map]
    rintro p ⟨a, -, rfl⟩
    rfl
  simp only [atoms, OpenGroup.choice, OpenGroup.sequence, OpenGroup.join, hi, hb, hdepth,
    List.append_nil, List.reverse_reverse, List.map_map]
  constructor
  · rfl
  · show 0 + max 0 ((if _ then 0 else 1) + 0) ≤ 1
    split <;> decide

theorem length_le_flatMap_quoted (cs : List Char) :
    cs.length ≤ (cs.flatMap quoted).length := by
  induction cs with
  | nil => exact Nat.le_refl 0
  | cons c cs ih =>
    have hc : 1 ≤ (quoted c).length := by
      rw [quoted]
      split <;> exact Nat.le_add_left 1 _
    rw [List.flatMap_cons, List.length_append, List.length_cons]
    omega

/-- A text that is written character by character between the marks of both ends is read as the
sequence of its characters between both ends. -/
theorem read?_quoted {cs : List Char} (hcs : ∀ c ∈ cs, IsQuotable c) :
    read? ('^' :: (cs.flatMap quoted ++ ['$'])) =
      some (.seqs ((anchored cs).map .atom)) := by
  obtain ⟨k, hk⟩ := Nat.exists_eq_add_of_le (length_le_flatMap_quoted cs)
  have hlen : ('^' :: (cs.flatMap quoted ++ ['$'])).length + 1 =
      cs.length + (k + 2) + 1 := by
    rw [List.length_cons, List.length_append, hk]
    rfl
  let s₀ : State := ⟨.initial, ⟨[], [], false, .initial⟩, [], []⟩
  obtain ⟨hexpr, hdepth⟩ := State.choice_atoms (s := s₀) rfl rfl (anchored cs)
  rw [read?, hlen, State.run_anchored rfl hcs]
  rw [Option.bind_eq_bind, Option.bind_some, guard_bind_eq_some_iff, guard_bind_eq_some_iff]
  exact ⟨rfl, Nat.le_trans hdepth (by decide), congrArg some hexpr⟩

theorem size_anchored_le {ds : List Char} (h : ∀ d ∈ ds, d.toNat < 128) :
    (Expr.seqs ((anchored ds).map .atom)).size ≤ 32 + (ds.length + 2) * 13792 := by
  have hatoms : ∀ e ∈ (anchored ds).map Expr.atom, e.size ≤ 13792 := by
    simp only [anchored, List.mem_map, List.mem_append, List.mem_cons, List.not_mem_nil, or_false]
    rintro e ⟨a, (rfl | ⟨d, hd, rfl⟩) | rfl, rfl⟩
    · decide
    · rw [Atom.ofChar, Expr.size_char]
      exact setSize_folded_le (h d hd)
    · decide
  have hsize := Expr.size_seqs_le hatoms
  simpa [anchored] using hsize

/-! ## Matching -/

section Spans

variable {text : List Char} {i j : Nat}

theorem Expr.spans_seqs_cons {e : Expr Atom} {rest : List (Expr Atom)} :
    (seqs (e :: rest)).Spans text i j ↔ ∃ k, e.Spans text i k ∧ (seqs rest).Spans text k j := by
  cases rest with
  | nil => exact exists_eq_right.symm
  | cons f rest => exact Iff.rfl

/-- A sequence of sets matches characters of these sets, one after the other. -/
theorem Expr.spans_seqs_chars {sets : List CharSet} {rest : List (Expr Atom)} :
    (seqs (sets.map (fun set ↦ .atom (.char set)) ++ rest)).Spans text i j ↔
      List.Forall₂ (fun set c ↦ set.contains c = true) sets ((text.drop i).take sets.length) ∧
        (seqs rest).Spans text (i + sets.length) j := by
  induction sets generalizing i with
  | nil => simp
  | cons set sets ih =>
    rw [List.map_cons, List.cons_append, spans_seqs_cons]
    simp only [ih, Spans, Atom.spans_char_iff, and_assoc, exists_eq_left, List.length_cons,
      Nat.add_assoc, Nat.add_comm 1]
    cases hc : text[i]? with
    | none =>
      have hd : text.drop i = [] := List.drop_eq_nil_of_le (List.getElem?_eq_none_iff.mp hc)
      simp [hd]
    | some c =>
      have hd : text.drop i = c :: text.drop (i + 1) := by
        obtain ⟨hi, rfl⟩ := List.getElem?_eq_some_iff.mp hc
        exact List.drop_eq_getElem_cons hi
      rw [hd, List.take_succ_cons, List.forall₂_cons, Option.any_some, and_assoc]

theorem Atom.spans_textStart_iff : Atom.Spans text (.look .textStart) i j ↔ i = 0 ∧ j = 0 := by
  rw [spans_look_iff]
  cases i with
  | zero => simp [Look.holds]
  | succ i =>
    simp only [Look.holds, Nat.add_one_ne_zero, if_false, Nat.add_sub_cancel,
      Option.isNone_iff_eq_none, List.getElem?_eq_none_iff, false_and, iff_false]
    omega

theorem Atom.spans_textEnd_iff :
    Atom.Spans text (.look .textEnd) i j ↔ i = text.length ∧ j = text.length := by
  rw [spans_look_iff]
  simp only [Look.holds, Option.isNone_iff_eq_none, List.getElem?_eq_none_iff]
  omega

/-- A sequence of characters between both ends matches the whole text or nothing. -/
theorem Expr.search_anchored {ds : List Char} :
    (seqs ((anchored ds).map .atom)).search text = true ↔
      List.Forall₂ (fun d c ↦ d ∈ Unicode.orbit c) ds text := by
  have hsets : (anchored ds).map Expr.atom = .atom (.look .textStart) ::
      ((ds.map fun d ↦ CharSet.folded (.single d)).map (fun set ↦ .atom (.char set)) ++
        [.atom (.look .textEnd)]) := by
    simp [anchored, Function.comp_def, Atom.ofChar]
  have horbit (d c : Char) :
      (CharSet.folded (.single d)).contains c = true ↔ d ∈ Unicode.orbit c := by
    simp [CharSet.contains]
  rw [search_eq_true_iff, hsets]
  simp only [spans_seqs_cons, spans_seqs_chars, seqs, Spans, Atom.spans_textStart_iff,
    Atom.spans_textEnd_iff, List.forall₂_map_left_iff, horbit, List.length_map]
  constructor
  · rintro ⟨_, _, -, _, ⟨rfl, rfl⟩, hf, hlen, rfl⟩
    rw [Nat.zero_add] at hlen
    rwa [List.drop_zero, hlen, List.take_length] at hf
  · intro hf
    refine ⟨0, text.length, Nat.zero_le _, 0, ⟨rfl, rfl⟩, ?_, ?_, rfl⟩
    · rwa [List.drop_zero, hf.length_eq, List.take_length]
    · rw [Nat.zero_add, hf.length_eq]

end Spans

/-- ASCII texts match one another character by character exactly if they are equal up to case. -/
theorem forall₂_mem_orbit_iff {cs ds : List Char} (hc : ∀ c ∈ cs, c.toNat < 128)
    (hd : ∀ d ∈ ds, d.toNat < 128) :
    List.Forall₂ (fun d c ↦ d ∈ Unicode.orbit c) ds cs ↔
      ds.map Char.toLower = cs.map Char.toLower := by
  induction ds generalizing cs with
  | nil => simp [eq_comm]
  | cons d ds ih =>
    cases cs with
    | nil => simp
    | cons c cs =>
      rw [List.forall_mem_cons] at hc hd
      rw [List.forall₂_cons, Unicode.mem_orbit_iff_of_ascii hc.1 hd.1, ih hc.2 hd.2, List.map_cons,
        List.map_cons, List.cons.injEq]

end Pattern

/-! ## Hosts and ports -/

namespace HostPattern

theorem IsNameChar.isQuotable {c : Char} (h : IsNameChar c) : Pattern.IsQuotable c := by
  rcases h with h | rfl | rfl
  · refine .inr fun hm ↦ ?_
    have hoperators : Pattern.operators.all (!Text.isAlphanumeric ·) = true := by decide
    have hc := List.all_eq_true.mp hoperators c hm
    rw [h] at hc
    cases hc
  · exact .inr (by decide)
  · exact .inl rfl

theorem toList_subject (host : String) (port : UInt16) :
    (subject host port).toList = host.toList ++ ':' :: Nat.toDigits 10 port.toNat := by
  rw [subject, String.toList_append, String.toList_append, Text.toList_toString_nat,
    List.append_assoc]
  rfl

theorem IsNameChar.toNat_lt {c : Char} (h : IsNameChar c) : c.toNat < 128 := by
  rcases h with h | rfl | rfl
  · exact Text.toNat_lt_of_isAlphanumeric h
  · decide
  · decide

theorem isNameChar_of_isDigit {c : Char} (h : Text.isDigit c = true) : IsNameChar c :=
  .inl (by rw [Text.isAlphanumeric, h]; rfl)

/-- What holds of the characters of a host, of the colon and of digits holds of the whole text. -/
theorem forall_mem_subject {P : Char → Prop} {host : String} (hh : ∀ c ∈ host.toList, P c)
    (hcolon : P ':') (hd : ∀ c, Text.isDigit c = true → P c) (port : UInt16) :
    ∀ c ∈ (subject host port).toList, P c := by
  intro c hc
  rw [toList_subject, List.mem_append, List.mem_cons] at hc
  rcases hc with hc | rfl | hc
  · exact hh c hc
  · exact hcolon
  · exact hd c (Text.isDigit_of_mem_toDigits hc)

theorem flatMap_quoted_of_dot_notMem {cs : List Char} (h : '.' ∉ cs) :
    cs.flatMap Pattern.quoted = cs := by
  have hq : cs.flatMap Pattern.quoted = cs.flatMap fun c ↦ [c] := by
    refine List.flatMap_congr fun c hc ↦ if_neg ?_
    rintro rfl
    exact h hc
  rw [hq, List.flatMap_singleton']

/-- The pattern is the whole text that is searched, written character by character. -/
theorem toList_literal (host : String) (port : UInt16) :
    (literal host port).toList =
      '^' :: ((subject host port).toList.flatMap Pattern.quoted ++ ['$']) := by
  have hdot : '.' ∉ ':' :: Nat.toDigits 10 port.toNat :=
    List.not_mem_cons_of_ne_of_not_mem (by decide) (Text.notMem_toDigits rfl _)
  rw [toList_subject, List.flatMap_append, flatMap_quoted_of_dot_notMem hdot, literal]
  simp only [String.toList_append, String.toList_ofList, Text.toList_toString_nat]
  simp

/-- The text that is searched tells the host up to case, and the port. -/
theorem map_toLower_subject_eq_iff {host host' : String} {port port' : UInt16} :
    (subject host port).toList.map Char.toLower = (subject host' port').toList.map Char.toLower ↔
      Text.eqIgnoringCase host host' = true ∧ port = port' := by
  rw [toList_subject, toList_subject, List.map_append, List.map_append, List.map_cons,
    List.map_cons, Text.map_toLower_toDigits, Text.map_toLower_toDigits, Text.eqIgnoringCase,
    beq_iff_eq, Text.asciiLower, Text.asciiLower, String.ofList_inj]
  constructor
  · intro h
    obtain ⟨hhost, hport⟩ :=
      Text.append_cons_inj (Text.notMem_toDigits rfl _) (Text.notMem_toDigits rfl _) h
    have hnat : port.toNat = port'.toNat := by
      rw [← Text.decimal_toDigits port.toNat, hport, Text.decimal_toDigits]
    exact ⟨hhost, UInt16.toNat_inj.mp hnat⟩
  · rintro ⟨h, rfl⟩
    rw [h]

theorem toNat_lt_of_mem_subject {host : String} (h : ∀ c ∈ host.toList, c.toNat < 128)
    (port : UInt16) : ∀ c ∈ (subject host port).toList, c.toNat < 128 :=
  forall_mem_subject h (by decide) (fun _ hd ↦ (isNameChar_of_isDigit hd).toNat_lt) port

/-! ## Compiling -/

theorem read?_literal {host : String} (h : ∀ c ∈ host.toList, IsNameChar c) (port : UInt16) :
    Pattern.read? (literal host port).toList =
      some (.seqs ((Pattern.anchored (subject host port).toList).map .atom)) := by
  rw [toList_literal]
  exact Pattern.read?_quoted (forall_mem_subject (fun c hc ↦ (h c hc).isQuotable)
    (.inr (by decide)) (fun c hd ↦ (isNameChar_of_isDigit hd).isQuotable) port)

theorem length_subject_le {host : String} {n : Nat} (h : host.toList.length ≤ n) (port : UInt16) :
    (subject host port).toList.length ≤ n + 6 := by
  have hport : (Nat.toDigits 10 port.toNat).length ≤ 5 :=
    (Nat.length_toDigits_le_iff (by decide) (by decide)).mpr
      (Nat.lt_of_lt_of_le port.toNat_lt (by decide))
  rw [toList_subject, List.length_append, List.length_cons]
  omega

/-- A literal pattern of a host name that is not overlong compiles. -/
theorem exists_compile_literal {host : String} (h : ∀ c ∈ host.toList, IsNameChar c)
    (hlen : host.toList.length ≤ 255) (port : UInt16) :
    ∃ p, compile (literal host port) = .ok p := by
  have hascii := toNat_lt_of_mem_subject (fun c hc ↦ (h c hc).toNat_lt) port
  refine ⟨⟨_, _⟩, compile_eq_ok_iff.mpr ⟨rfl, read?_literal h port, ?_⟩⟩
  refine Nat.le_trans (Pattern.size_anchored_le hascii) ?_
  have hsubject := length_subject_le hlen port
  rw [Pattern.sizeLimit]
  omega

end HostPattern

namespace HostMatcher

/-- A literal pattern that compiles matches its own host and port, in letters of either case, and
no other host or port. -/
theorem isMatch_literal_iff {host₀ : String} {port₀ : UInt16} {m : HostMatcher}
    (h₀ : ∀ c ∈ host₀.toList, HostPattern.IsNameChar c)
    (hm : ofTexts [HostPattern.literal host₀ port₀] = .ok m) {host : String}
    (hh : ∀ c ∈ host.toList, c.toNat < 128) (port : UInt16) :
    m.isMatch host port = true ↔ Text.eqIgnoringCase host host₀ = true ∧ port = port₀ := by
  rw [ofTexts_singleton] at hm
  obtain ⟨p, hp, rfl⟩ := exists_of_map_eq_ok hm
  obtain ⟨-, hread, -⟩ := HostPattern.compile_eq_ok_iff.mp hp
  rw [HostPattern.read?_literal h₀] at hread
  have hascii := HostPattern.toNat_lt_of_mem_subject hh port
  have hascii₀ := HostPattern.toNat_lt_of_mem_subject (fun c hc ↦ (h₀ c hc).toNat_lt) port₀
  rw [isMatch, List.any_cons, List.any_nil, Bool.or_false, HostPattern.isFound,
    ← Option.some.inj hread, Pattern.Expr.search_anchored,
    Pattern.forall₂_mem_orbit_iff hascii hascii₀, eq_comm, HostPattern.map_toLower_subject_eq_iff]

/-- Neither another port nor another host is let through, be it one that a dot would match. -/
theorem isMatch_literal_sample : ∃ m, ofTexts [HostPattern.literal "example.com" 443] = .ok m ∧
    m.isMatch "Example.COM" 443 = true ∧ m.isMatch "example.com" 8443 = false ∧
    m.isMatch "exampleXcom" 443 = false ∧ m.isMatch "example.com:443\n" 443 = false := by
  have hall {P : Char → Prop} [DecidablePred P] {text : String}
      (h : text.toList.all (P ·) = true) : ∀ c ∈ text.toList, P c :=
    fun c hc ↦ of_decide_eq_true (List.all_eq_true.mp h c hc)
  have h₀ : ∀ c ∈ "example.com".toList, HostPattern.IsNameChar c := hall (by decide)
  obtain ⟨p, hp⟩ := HostPattern.exists_compile_literal h₀ (by decide) 443
  have hm : ofTexts [HostPattern.literal "example.com" 443] = .ok ⟨[p]⟩ := by
    rw [ofTexts_singleton, hp]
    rfl
  have hmatch {host : String} (hh : ∀ c ∈ host.toList, c.toNat < 128) (port : UInt16) :=
    isMatch_literal_iff h₀ hm hh port
  refine ⟨⟨[p]⟩, hm, (hmatch (hall (by decide)) 443).mpr (by decide), ?_, ?_, ?_⟩
  all_goals
    rw [← Bool.not_eq_true, hmatch (hall (by decide))]
    decide

end HostMatcher

end ProxySettings
