import ProxySettings.Proofs.CaselessSet
import ProxySettings.Proofs.PatternLists
import ProxySettings.Proofs.PatternSize

/-!
# Patterns without regard to case

A pattern is read with letters standing for both of their cases, until a setting of flags says
otherwise. Up to there every set that the reader makes is caseless, in classes however they are
negated, combined and nested. So a pattern that never clears the flag matches hosts that differ in
the case of letters alike.
-/

namespace ProxySettings

namespace Pattern

open Unicode (CharSet)

/-! ## Settings of flags -/

/-- A text after an opening parenthesis sets flags, for a group or for what follows, and clears the
flag `i` among them. -/
def ClearsCase (cs : List Char) : Prop :=
  ∃ letters cleared stop rest, cs = '?' :: letters ++ '-' :: cleared ++ stop :: rest ∧
    (∀ c ∈ letters ++ cleared, c ∈ "imsRuxU".toList) ∧ (stop = ':' ∨ stop = ')') ∧ 'i' ∈ cleared

section FlagLetters

variable {f f' : Flags} {seen seen' cs rest : List Char} {c stop : Char} {value : Bool}

theorem Flags.assign_eq_some (h : f.assign c value = some f') :
    c ∈ "imsRuxU".toList ∧ f'.anyCase = if c = 'i' then value else f.anyCase := by
  unfold assign at h
  split at h <;> cases h <;> exact ⟨by decide, rfl⟩

/-- Behind the hyphen, letters are cleared up to the end of the setting. -/
theorem flagLetters_cleared (hseen : '-' ∈ seen)
    (h : flagLetters f seen false cs = some (f', stop, seen', rest)) :
    ∃ cleared, cs = cleared ++ stop :: rest ∧ (∀ c ∈ cleared, c ∈ "imsRuxU".toList) ∧
      (stop = ':' ∨ stop = ')') ∧ ('i' ∉ cleared → f'.anyCase = f.anyCase) := by
  induction cs generalizing f seen with
  | nil => cases h
  | cons c cs ih =>
    rw [flagLetters] at h
    split at h
    next hstop =>
      obtain ⟨-, h⟩ := Option.ite_none_left_eq_some.mp h
      cases h
      exact ⟨[], rfl, nofun, hstop, fun _ ↦ rfl⟩
    next =>
      obtain ⟨hnew, h⟩ := Option.ite_none_left_eq_some.mp h
      rw [List.contains_iff_mem] at hnew
      have hhyphen : c ≠ '-' := fun hc ↦ hnew (hc ▸ hseen)
      rw [if_neg hhyphen] at h
      split at h
      next f₁ hassign =>
        obtain ⟨hc, hcase⟩ := Flags.assign_eq_some hassign
        obtain ⟨cleared, rfl, hletters, hstop, hkeep⟩ := ih (List.mem_cons_of_mem _ hseen) h
        refine ⟨c :: cleared, rfl, List.forall_mem_cons.mpr ⟨hc, hletters⟩, hstop, fun hi ↦ ?_⟩
        obtain ⟨hne, hi⟩ := not_or.mp (List.mem_cons.not.mp hi)
        rw [hkeep hi, hcase, if_neg (Ne.symm hne)]
      next => cases h

/-- A setting clears the flag only if its letter is behind the hyphen. -/
theorem anyCase_of_flagLetters (hf : f.anyCase = true)
    (h : flagLetters f seen true cs = some (f', stop, seen', rest)) (hc : ¬ClearsCase ('?' :: cs)) :
    f'.anyCase = true := by
  suffices f'.anyCase = true ∨ ∃ letters cleared, cs = letters ++ '-' :: cleared ++ stop :: rest ∧
      (∀ c ∈ letters ++ cleared, c ∈ "imsRuxU".toList) ∧ (stop = ':' ∨ stop = ')') ∧
      'i' ∈ cleared by
    refine this.resolve_right ?_
    rintro ⟨letters, cleared, rfl, hall⟩
    exact hc ⟨letters, cleared, stop, rest, rfl, hall⟩
  clear hc
  induction cs generalizing f seen with
  | nil => cases h
  | cons c cs ih =>
    rw [flagLetters] at h
    split at h
    next hstop =>
      obtain ⟨-, h⟩ := Option.ite_none_left_eq_some.mp h
      cases h
      exact .inl hf
    next =>
      obtain ⟨-, h⟩ := Option.ite_none_left_eq_some.mp h
      split at h
      next hhyphen =>
        obtain ⟨cleared, rfl, hletters, hstop, hkeep⟩ :=
          flagLetters_cleared List.mem_cons_self (hhyphen ▸ h)
        by_cases hi : 'i' ∈ cleared
        · exact .inr ⟨[], cleared, by rw [hhyphen]; rfl, hletters, hstop, hi⟩
        · exact .inl (by rw [hkeep hi, hf])
      next =>
        split at h
        next f₁ hassign =>
          obtain ⟨hc, hcase⟩ := Flags.assign_eq_some hassign
          refine (ih (by rw [hcase, hf, ite_self]) h).imp_right ?_
          rintro ⟨letters, cleared, rfl, hletters, hall⟩
          exact ⟨c :: letters, cleared, rfl, List.forall_mem_cons.mpr ⟨hc, hletters⟩, hall⟩
        next => cases h

end FlagLetters

/-! ## Escapes and classes -/

section Sets

variable {f : Flags} {set : CharSet} {cs rest : List Char}

theorem isCaseless_shorthand {letter : Char} (h : shorthand f letter = some set) :
    set.IsCaseless := by
  have hword : (if f.unicode then wordSet else asciiWordSet).IsCaseless := by
    split
    · exact isCaseless_wordSet
    · exact isCaseless_asciiWordSet
  unfold shorthand at h
  split at h
  · exact Option.some_inj.mp h ▸ isCaseless_digitSet f
  · exact Option.some_inj.mp h ▸ isCaseless_blankSet f
  · exact Option.some_inj.mp h ▸ hword
  · exact Flags.eq_of_allow h ▸ (isCaseless_digitSet f).compl
  · exact Flags.eq_of_allow h ▸ (isCaseless_blankSet f).compl
  · exact Flags.eq_of_allow h ▸ hword.compl
  · cases h

theorem hexEscape_ne_set {size : Nat} : hexEscape f size cs ≠ some (.set set, rest) := by
  intro h
  unfold hexEscape at h
  split at h <;> simp [Option.bind_eq_some_iff] at h

theorem wordEscape_ne_set : wordEscape f cs ≠ some (.set set, rest) := by
  intro h
  unfold wordEscape at h
  dsimp only at h
  split at h
  · split at h
    · cases h
    · split at h
      · obtain ⟨⟨name, after⟩, -, h⟩ := Option.bind_eq_some_iff.mp h
        dsimp only at h
        split at h <;> cases h
      · cases h
  · cases h

theorem isCaseless_propertyEscape {negated : Bool} (hf : f.anyCase = true)
    (h : propertyEscape f negated cs = some (.set set, rest)) : set.IsCaseless := by
  unfold propertyEscape at h
  obtain ⟨-, -, h⟩ := Option.bind_eq_some_iff.mp h
  split at h
  · cases h
  · simp only [bind, Option.bind_eq_some_iff, pure, Option.some.injEq, Prod.mk.injEq,
      Escape.set.injEq] at h
    obtain ⟨_, -, _, -, _, hclose, rfl, -⟩ := h
    exact Flags.isCaseless_close hf hclose
  · cases h
  · simp only [bind, Option.bind_eq_some_iff, pure, Option.some.injEq, Prod.mk.injEq,
      Escape.set.injEq] at h
    obtain ⟨_, -, _, hclose, rfl, -⟩ := h
    exact Flags.isCaseless_close hf hclose

/-- The set of an escape is caseless, however it is named. -/
theorem isCaseless_escape (hf : f.anyCase = true) (h : escape f cs = some (.set set, rest)) :
    set.IsCaseless := by
  unfold escape at h
  split at h
  · cases h
  next c cs =>
    -- Only shorthands and properties give sets.
    split_ifs at h
    · exact absurd h hexEscape_ne_set
    · exact absurd h hexEscape_ne_set
    · exact absurd h hexEscape_ne_set
    · exact isCaseless_propertyEscape hf h
    · exact isCaseless_propertyEscape hf h
    · obtain ⟨_, hs, h⟩ := Option.map_eq_some_iff.mp h
      cases h
      exact isCaseless_shorthand hs
    · cases h
    · split at h
      · cases h
      · split at h
        case h_3 => exact absurd h wordEscape_ne_set
        all_goals cases h

/-- A class is folded as a whole when it closes, whatever it lists, combines and nests. -/
theorem isCaseless_classes {fuel : Nat} {current : OpenClass} {outer : List OpenClass} {n : Nested}
    (hf : f.anyCase = true) (h : classes f fuel current outer cs = some (n, rest)) :
    n.set.IsCaseless := by
  induction fuel generalizing current outer cs with
  | zero => cases h
  | succ fuel ih =>
    rw [classes] at h
    split at h
    · cases h
    · split at h
      · split at h
        · exact ih h
        · cases h
      · split at h
        · exact ih h
        · cases h
    · split at h
      · cases h
      next nested hclose =>
        cases h
        obtain ⟨_, hset, rfl⟩ := Option.map_eq_some_iff.mp hclose
        exact Flags.isCaseless_close hf hset
      · exact ih h
    · exact ih h
    · exact ih h
    · exact ih h
    · split at h
      · exact ih h
      · cases h

theorem isCaseless_bracket {n : Nested} (hf : f.anyCase = true)
    (h : bracket f cs = some (n, rest)) : n.set.IsCaseless := by
  obtain ⟨_, -, h⟩ := Option.bind_eq_some_iff.mp h
  exact isCaseless_classes hf h

theorem isCaseless_literal {c : Char} {isByte : Bool} (hf : f.anyCase = true)
    (h : literal f c isByte = some set) : set.IsCaseless := by
  obtain ⟨-, ⟨⟩⟩ := Option.ite_none_left_eq_some.mp h
  exact Flags.isCaseless_fold hf _

/-- A dot leaves out line ends at most, which are no letters. -/
theorem isCaseless_dotSet (h : dotSet f = some set) : set.IsCaseless := by
  have hsingle {c : Char} (hc : c.toNat < 65) : (CharSet.single c).IsCaseless :=
    CharSet.isCaseless_runs (List.forall_mem_singleton.mpr (.inl hc))
  unfold dotSet at h
  split_ifs at h <;> cases h
  · exact fun _ _ _ ↦ rfl
  · exact ((hsingle (by decide)).union (hsingle (by decide))).compl
  · exact (hsingle (by decide)).compl

end Sets

/-! ## Groups -/

namespace Expr

variable {es : List (Expr Atom)}

/-- A sequence or a choice of caseless expressions: `build` makes one expression of several by
joining the first one to the rest. -/
theorem isCaseless_build {build : List (Expr Atom) → Expr Atom} (hnil : (build []).IsCaseless)
    (hone : ∀ e, e.IsCaseless → (build [e]).IsCaseless)
    (hmore : ∀ d e rest, d.IsCaseless → (build (e :: rest)).IsCaseless →
      (build (d :: e :: rest)).IsCaseless)
    (h : ∀ e ∈ es, e.IsCaseless) : (build es).IsCaseless := by
  induction es with
  | nil => exact hnil
  | cons e rest ih =>
    obtain ⟨he, hrest⟩ := List.forall_mem_cons.mp h
    cases rest with
    | nil => exact hone e he
    | cons => exact hmore _ _ _ he (ih hrest)

theorem isCaseless_seqs (h : ∀ e ∈ es, e.IsCaseless) : (seqs es).IsCaseless :=
  isCaseless_build trivial (fun _ ↦ id) (fun _ _ _ ↦ And.intro) h

theorem isCaseless_alts (h : ∀ e ∈ es, e.IsCaseless) : (alts es).IsCaseless :=
  isCaseless_build trivial (fun _ ↦ id) (fun _ _ _ ↦ And.intro) h

end Expr

namespace OpenGroup

variable {g : OpenGroup} {p : Piece}

/-- All expressions of a group are caseless, and it does not go back to flags without `i`. -/
structure IsCaseless (g : OpenGroup) : Prop where
  branches : ∀ p ∈ g.branches, p.expr.IsCaseless
  items : ∀ p ∈ g.items, p.expr.IsCaseless
  restored : g.restored.anyCase = true

theorem IsCaseless.push (hg : g.IsCaseless) (hp : p.expr.IsCaseless) : (g.push p).IsCaseless where
  branches := hg.branches
  items := List.forall_mem_cons.mpr ⟨hp, hg.items⟩
  restored := hg.restored

theorem forall_mem_map_reverse {ps : List Piece} (h : ∀ p ∈ ps, p.expr.IsCaseless) :
    ∀ e ∈ ps.reverse.map Piece.expr, e.IsCaseless := by
  simpa only [List.forall_mem_map, List.mem_reverse] using h

theorem IsCaseless.sequence (hg : g.IsCaseless) : g.sequence.expr.IsCaseless :=
  Expr.isCaseless_seqs (forall_mem_map_reverse hg.items)

theorem IsCaseless.choice (hg : g.IsCaseless) : g.choice.expr.IsCaseless :=
  Expr.isCaseless_alts
    (forall_mem_map_reverse (List.forall_mem_cons.mpr ⟨hg.sequence, hg.branches⟩))

theorem IsCaseless.branch (hg : g.IsCaseless) : g.branch.IsCaseless where
  branches := List.forall_mem_cons.mpr ⟨hg.sequence, hg.branches⟩
  items := nofun
  restored := hg.restored

theorem IsCaseless.close (hg : g.IsCaseless) : g.close.expr.IsCaseless := by
  rw [OpenGroup.close]
  dsimp only
  split
  · exact hg.choice
  · exact hg.choice

theorem IsCaseless.repeat {g' : OpenGroup} {min : Nat} {max : Option Nat} (hg : g.IsCaseless)
    (h : g.repeat min max = some g') : g'.IsCaseless := by
  unfold OpenGroup.repeat at h
  split at h
  next p before hitems =>
    obtain ⟨-, ⟨⟩⟩ := Option.ite_none_right_eq_some.mp h
    obtain ⟨hp, hbefore⟩ := List.forall_mem_cons.mp (hitems ▸ hg.items)
    exact ⟨hg.branches, List.forall_mem_cons.mpr ⟨hp, hbefore⟩, hg.restored⟩
  next => cases h

end OpenGroup

/-! ## Reading -/

namespace State

variable {s s' : State} {c : Char} {cs rest : List Char}

/-- The flag for letters of either case is set here and in all groups around, and all expressions so
far are caseless. -/
structure IsCaseless (s : State) : Prop where
  flags : s.flags.anyCase = true
  current : s.current.IsCaseless
  outer : ∀ g ∈ s.outer, g.IsCaseless

theorem IsCaseless.atom {a : Atom} (hs : s.IsCaseless) (ha : a.IsCaseless) :
    (s.atom a).IsCaseless where
  flags := hs.flags
  current := hs.current.push ha
  outer := hs.outer

theorem IsCaseless.open {f : Flags} (hs : s.IsCaseless) (captures : Bool)
    (hf : f.anyCase = true) : (s.open captures f).IsCaseless where
  flags := hf
  current := ⟨nofun, nofun, hs.flags⟩
  outer := List.forall_mem_cons.mpr ⟨hs.current, hs.outer⟩

theorem IsCaseless.repeat {min : Nat} {max : Option Nat} (hs : s.IsCaseless)
    (h : s.repeat min max = some s') : s'.IsCaseless := by
  obtain ⟨g, hg, rfl⟩ := Option.map_eq_some_iff.mp h
  exact ⟨hs.flags, hs.current.repeat hg, hs.outer⟩

theorem IsCaseless.group (hs : s.IsCaseless) (hc : ¬ClearsCase (s.flags.skip cs))
    (h : s.group cs = some (s', rest)) : s'.IsCaseless := by
  unfold State.group at h
  dsimp only at h
  obtain ⟨-, h⟩ := Option.ite_none_left_eq_some.mp h
  have hnamed (name : List Char) : State.IsCaseless { s with names := name :: s.names } :=
    ⟨hs.flags, hs.current, hs.outer⟩
  split at h
  · obtain ⟨⟨name, _⟩, -, h⟩ := Option.bind_eq_some_iff.mp h
    cases h
    exact (hnamed name).open true hs.flags
  · obtain ⟨⟨name, _⟩, -, h⟩ := Option.bind_eq_some_iff.mp h
    cases h
    exact (hnamed name).open true hs.flags
  next cs _ _ hskip =>
    obtain ⟨⟨f, stop, seen, rest⟩, hletters, h⟩ := Option.bind_eq_some_iff.mp h
    have hf : f.anyCase = true := anyCase_of_flagLetters hs.flags hletters (hskip ▸ hc)
    dsimp only at h
    split_ifs at h
    · cases h
      exact hs.open false hf
    · cases h
      exact ⟨hf, hs.current.push trivial, hs.outer⟩
  · cases h
    exact hs.open true hs.flags

/-- Reading one item keeps every set caseless, unless it is a setting that clears the flag. -/
theorem IsCaseless.step (hs : s.IsCaseless) (hc : c = '(' → ¬ClearsCase (s.flags.skip cs))
    (h : s.step c cs = some (s', rest)) : s'.IsCaseless := by
  have hrepeat {min : Nat} {max : Option Nat} {skipped : List Char}
      (h : (s.repeat min max).map (·, skipped) = some (s', rest)) : s'.IsCaseless := by
    obtain ⟨_, hr, h⟩ := Option.map_eq_some_iff.mp h
    cases h
    exact hs.repeat hr
  unfold State.step at h
  dsimp only at h
  split at h
  · exact hs.group (hc rfl) h
  · split at h
    · cases h
    next parent outer houter =>
      cases h
      obtain ⟨hparent, houter⟩ := List.forall_mem_cons.mp (houter ▸ hs.outer)
      exact ⟨hs.current.restored, hparent.push hs.current.close, houter⟩
  · cases h
    exact ⟨hs.flags, hs.current.branch, hs.outer⟩
  · obtain ⟨⟨n, _⟩, hb, h⟩ := Option.map_eq_some_iff.mp h
    cases h
    exact ⟨hs.flags, hs.current.push (isCaseless_bracket hs.flags hb), hs.outer⟩
  · exact hrepeat h
  · exact hrepeat h
  · exact hrepeat h
  · obtain ⟨⟨min, max, _⟩, -, h⟩ := Option.bind_eq_some_iff.mp h
    obtain ⟨_, hr, h⟩ := Option.bind_eq_some_iff.mp h
    cases h
    exact hs.repeat hr
  · obtain ⟨⟨e, _⟩, he, h⟩ := Option.bind_eq_some_iff.mp h
    dsimp only at h
    split at h
    · obtain ⟨_, hl, h⟩ := Option.bind_eq_some_iff.mp h
      cases h
      exact hs.atom (isCaseless_literal hs.flags hl)
    · cases h
      exact hs.atom (isCaseless_escape hs.flags he)
    · cases h
      exact hs.atom trivial
  · obtain ⟨_, hd, h⟩ := Option.map_eq_some_iff.mp h
    cases h
    exact hs.atom (isCaseless_dotSet hd)
  · cases h
    exact hs.atom trivial
  · cases h
    exact hs.atom trivial
  · obtain ⟨_, hl, h⟩ := Option.map_eq_some_iff.mp h
    cases h
    exact hs.atom (isCaseless_literal hs.flags hl)

/-- The texts after the opening parentheses of groups and settings, as far as the reader comes from
a state. Parentheses that are escaped, listed in a class or part of a comment are not among them. -/
def groupTexts : Nat → State → List Char → List (List Char)
  | 0, _, _ => []
  | fuel + 1, s, cs =>
    match s.flags.skip cs with
    | [] => []
    | c :: rest =>
      let later := match s.step c rest with
        | some (s, rest) => groupTexts fuel s rest
        | none => []
      if c = '(' then s.flags.skip rest :: later else later

theorem IsCaseless.run {fuel : Nat} (hs : s.IsCaseless)
    (hc : ∀ group ∈ groupTexts fuel s cs, ¬ClearsCase group) (h : s.run fuel cs = some s') :
    s'.IsCaseless := by
  induction fuel generalizing s cs with
  | zero => cases h
  | succ fuel ih =>
    rw [State.run] at h
    rw [groupTexts] at hc
    cases hskip : s.flags.skip cs with
    | nil =>
      simp only [hskip] at h
      cases h
      exact hs
    | cons c rest =>
      simp only [hskip] at h hc
      cases hstep : s.step c rest with
      | none => simp only [hstep, reduceCtorEq] at h
      | some next =>
        simp only [hstep] at h hc
        split_ifs at hc with hopen
        · obtain ⟨hgroup, hlater⟩ := List.forall_mem_cons.mp hc
          exact ih (hs.step (fun _ ↦ hgroup) hstep) hlater h
        · exact ih (hs.step (fun h ↦ absurd h hopen) hstep) hc h

end State

/-- The texts after the parentheses that open groups or set flags in a pattern. -/
def groupTexts (text : List Char) : List (List Char) :=
  State.groupTexts (text.length + 1) ⟨.initial, ⟨[], [], false, .initial⟩, [], []⟩ text

/-- The expression of a pattern is caseless unless a setting of flags clears `i`. -/
theorem isCaseless_of_read? {text : List Char} {e : Expr Atom} (h : read? text = some e)
    (hc : ∀ group ∈ groupTexts text, ¬ClearsCase group) : e.IsCaseless := by
  obtain ⟨s, hrun, h⟩ := Option.bind_eq_some_iff.mp h
  obtain ⟨-, -, h⟩ := Option.bind_eq_some_iff.mp h
  obtain ⟨-, -, ⟨⟩⟩ := Option.bind_eq_some_iff.mp h
  have hinitial : State.IsCaseless ⟨.initial, ⟨[], [], false, .initial⟩, [], []⟩ :=
    ⟨rfl, ⟨nofun, nofun, rfl⟩, nofun⟩
  exact (hinitial.run hc hrun).current.choice

end Pattern

namespace HostMatcher

variable {texts : List String} {m : HostMatcher}

/-- Hosts that differ only in the case of ASCII letters are matched alike, unless a pattern has a
setting of flags that clears `i`. -/
theorem isMatch_ignores_case (hm : ofTexts texts = .ok m)
    (hc : ∀ text ∈ texts, ∀ group ∈ Pattern.groupTexts text.toList, ¬Pattern.ClearsCase group)
    {host host' : String} (hh : Text.eqIgnoringCase host host' = true) (port : UInt16) :
    m.isMatch host port = m.isMatch host' port := by
  have hsubject : (HostPattern.subject host port).toList.map Char.toLower =
      (HostPattern.subject host' port).toList.map Char.toLower := by
    have hlower : host.toList.map Char.toLower = host'.toList.map Char.toLower :=
      String.ofList_injective (beq_iff_eq.mp hh)
    simp only [HostPattern.subject, String.toList_append, List.map_append, hlower]
  rw [Bool.eq_iff_iff, isMatch_iff_finds hm, isMatch_iff_finds hm]
  refine exists_congr fun text ↦ and_congr_right fun ht ↦ ?_
  rw [HostPattern.finds_iff, HostPattern.finds_iff]
  refine exists_congr fun expr ↦ and_congr_right fun hread ↦ ?_
  rw [Pattern.Expr.search_congr (Pattern.isCaseless_of_read? hread (hc text ht)) hsubject]

/-- The items of `\b([^k])\.s`. -/
private def sampleItems : List (Pattern.Expr Pattern.Atom) :=
  [.atom (.look (.word .boundary false)),
    .capture (.atom (.char (.compl (.folded (.single 'k'))))),
    .atom (.char (.folded (.single '.'))), .atom (.char (.folded (.single 's')))]

private theorem compile_sample :
    HostPattern.compile "\\b([^k])\\.s" = .ok ⟨"\\b([^k])\\.s", .seqs sampleItems⟩ := by
  have hcompl := Pattern.setSize_compl_folded_le (show 'k'.toNat < 0x80 by decide)
  have hdot := Pattern.setSize_folded_le (show '.'.toNat < 0x80 by decide)
  have hs := Pattern.setSize_folded_le (show 's'.toNat < 0x80 by decide)
  have hitems : ∀ e ∈ sampleItems, e.size ≤ 20720 := by
    simp only [sampleItems, List.forall_mem_cons, Pattern.Expr.size_capture,
      Pattern.Expr.size_char, Pattern.Expr.size_look]
    exact ⟨by omega, by omega, by omega, by omega, nofun⟩
  exact HostPattern.compile_eq_ok_iff.mpr
    ⟨rfl, rfl, Nat.le_trans (Pattern.Expr.size_seqs_le hitems) (by decide)⟩

private theorem search_sample :
    (Pattern.Expr.seqs sampleItems).search (HostPattern.subject "x.S" 443).toList = true := by
  have hfolded {c d : Char} (hc : c.toNat < 0x80) (hd : d.toNat < 0x80) :=
    @Unicode.CharSet.contains_folded_single_of_ascii c d hc hd
  have hx : (Unicode.CharSet.compl (.folded (.single 'k'))).contains 'x' = true := by
    rw [Unicode.CharSet.contains, Bool.not_eq_true', ← Bool.not_eq_true,
      hfolded (by decide) (by decide)]
    decide
  have hdot : (Unicode.CharSet.folded (.single '.')).contains '.' = true :=
    (hfolded (by decide) (by decide)).mpr (by decide)
  have hs : (Unicode.CharSet.folded (.single 's')).contains 'S' = true :=
    (hfolded (by decide) (by decide)).mpr (by decide)
  refine Pattern.Expr.search_eq_true_iff.mpr ⟨0, 3, Nat.zero_le _, 0, ?_, 1, ?_, 2, ?_, ?_⟩
  · exact .look (Nat.zero_le _) rfl
  · exact Pattern.Atom.Spans.char rfl hx
  · exact Pattern.Atom.Spans.char rfl hdot
  · exact Pattern.Atom.Spans.char rfl hs

/-- A pattern with a place, a negated class in a group and a letter. -/
theorem isMatch_ignores_case_sample : ∃ m, ofTexts ["\\b([^k])\\.s"] = .ok m ∧
    m.isMatch "x.S" 443 = true ∧ m.isMatch "X.s" 443 = true := by
  obtain ⟨m, hm⟩ := exists_ofTexts_singleton_iff.mpr ⟨_, compile_sample⟩
  have hx : m.isMatch "x.S" 443 = true :=
    (isMatch_iff_finds hm).mpr ⟨_, List.mem_singleton_self _,
      (HostPattern.isFound_iff_finds compile_sample).mp search_sample⟩
  -- The one parenthesis opens a group, and its text does not start with a question mark.
  have hgroups : Pattern.groupTexts "\\b([^k])\\.s".toList = ["[^k])\\.s".toList] := rfl
  have hclear : ∀ text ∈ ["\\b([^k])\\.s"],
      ∀ group ∈ Pattern.groupTexts text.toList, ¬Pattern.ClearsCase group := by
    rw [List.forall_mem_singleton, hgroups, List.forall_mem_singleton]
    rintro ⟨_, _, _, _, ⟨⟩, -⟩
  exact ⟨m, hm, hx, (isMatch_ignores_case hm hclear (by decide) 443).trans hx⟩

end HostMatcher

end ProxySettings
