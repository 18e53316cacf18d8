import ProxySettings.Certs.Store

/-!
# Patterns of domains

A pattern covers the domain that it names, `*` covers every domain, and `*.suffix` covers what ends
with a dot and the suffix. The forms of a domain are exactly the patterns that cover it, and of two
different forms the one that comes first is the narrower one.
-/

namespace ProxySettings.CertStore

/-- A pattern covers a domain; both are in lower case. -/
def Covers (pattern domain : String) : Prop :=
  pattern = domain ∨ pattern = "*" ∨
    ∃ label suffix, pattern = "*." ++ suffix ∧ domain = label ++ "." ++ suffix

/-- A pattern is narrower than another one, which is not the domain itself: it is the domain, or it
has a longer suffix, or it is a pattern of some domains only and the other one of all. -/
def Narrower (domain pattern other : String) : Prop :=
  other ≠ domain ∧
    (pattern = domain ∨
      (∃ long short, pattern = "*." ++ long ∧ other = "*." ++ short ∧
        short.length < long.length) ∨
      (pattern ≠ "*" ∧ other = "*"))

theorem length_wildcard (suffix : String) : ("*." ++ suffix).length = suffix.length + 2 := by
  rw [String.length_append, Nat.add_comm]
  rfl

/-- A pattern of a suffix is not the pattern of all domains. -/
theorem wildcard_ne_any (suffix : String) : "*." ++ suffix ≠ "*" := by
  intro h
  have hl := congrArg String.length h
  rw [length_wildcard] at hl
  have h1 : "*".length = 1 := rfl
  omega

/-- The pattern of a suffix does not cover the suffix itself. -/
theorem not_covers_suffix (suffix : String) : ¬Covers ("*." ++ suffix) suffix := by
  rintro (h | h | ⟨label, s, hp, hd⟩)
  · have hl := congrArg String.length h
    rw [length_wildcard] at hl
    omega
  · exact wildcard_ne_any suffix h
  · have hs : suffix = s := (String.append_right_inj "*.").mp hp
    have hl := congrArg String.length hd
    rw [String.length_append, String.length_append, hs] at hl
    have h1 : ".".length = 1 := rfl
    omega

/-- Of two patterns only one is narrower. -/
theorem not_narrower_of_narrower {domain pattern other : String}
    (h : Narrower domain pattern other) : ¬Narrower domain other pattern := by
  rintro ⟨hp, ho⟩
  obtain ⟨hne, rfl | ⟨long, short, rfl, rfl, hl⟩ | ⟨ha, rfl⟩⟩ := h
  · exact hp rfl
  · obtain rfl | ⟨long', short', h1, h2, hl'⟩ | ⟨-, hs⟩ := ho
    · exact hne rfl
    · rw [(String.append_right_inj "*.").mp h1, (String.append_right_inj "*.").mp h2] at hl
      omega
    · exact wildcard_ne_any long hs
  · obtain rfl | ⟨long', short', h1, -, -⟩ | ⟨hs, -⟩ := ho
    · exact hne rfl
    · exact wildcard_ne_any long' h1.symm
    · exact hs rfl

/-! ## Forms -/

/-- The wildcards of a text are the patterns of what stands after its dots. -/
theorem mem_wildcards_iff {pattern : String} {cs : List Char} :
    pattern ∈ wildcards cs ↔ ∃ label suffix : List Char,
      pattern = String.ofList ('*' :: '.' :: suffix) ∧ cs = label ++ '.' :: suffix := by
  induction cs with
  | nil => simp [wildcards]
  | cons c cs ih =>
    rw [wildcards]
    constructor
    · intro h
      split at h
      · next hc =>
        subst hc
        rcases List.mem_cons.mp h with rfl | h
        · exact ⟨[], cs, rfl, rfl⟩
        · obtain ⟨label, suffix, rfl, rfl⟩ := ih.mp h
          exact ⟨'.' :: label, suffix, rfl, rfl⟩
      · obtain ⟨label, suffix, rfl, rfl⟩ := ih.mp h
        exact ⟨c :: label, suffix, rfl, rfl⟩
    · rintro ⟨label, suffix, rfl, h⟩
      cases label with
      | nil =>
        obtain ⟨rfl, rfl⟩ := List.cons.inj h
        rw [if_pos rfl]
        exact List.mem_cons_self
      | cons d label =>
        obtain ⟨rfl, rfl⟩ := List.cons.inj h
        have hm := ih.mpr ⟨label, suffix, rfl, rfl⟩
        split
        · exact List.mem_cons_of_mem _ hm
        · exact hm

/-- The wildcards of a text get shorter. -/
theorem pairwise_wildcards (cs : List Char) :
    (wildcards cs).Pairwise fun pattern other ↦ other.length < pattern.length := by
  induction cs with
  | nil => exact List.Pairwise.nil
  | cons c cs ih =>
    rw [wildcards]
    split
    · apply List.pairwise_cons.mpr
      refine ⟨?_, ih⟩
      intro other ho
      obtain ⟨label, suffix, rfl, rfl⟩ := mem_wildcards_iff.mp ho
      simp only [String.length_ofList, List.length_cons, List.length_append]
      omega
    · exact ih

/-- The wildcards of a domain, as texts. -/
theorem mem_wildcards_toList_iff {pattern domain : String} :
    pattern ∈ wildcards domain.toList ↔
      ∃ label suffix, pattern = "*." ++ suffix ∧ domain = label ++ "." ++ suffix := by
  rw [mem_wildcards_iff]
  constructor
  · rintro ⟨label, suffix, rfl, h⟩
    refine ⟨String.ofList label, String.ofList suffix, ?_, ?_⟩
    · rw [← String.toList_inj]
      simp
    · rw [← String.toList_inj, h]
      simp
  · rintro ⟨label, suffix, rfl, rfl⟩
    refine ⟨label.toList, suffix.toList, ?_, ?_⟩
    · rw [← String.toList_inj]
      simp
    · simp

/-- The forms of a domain are the patterns that cover it. -/
theorem mem_lookupForms_iff {pattern domain : String} :
    pattern ∈ lookupForms domain ↔ Covers pattern domain := by
  rw [lookupForms, List.cons_append, List.mem_cons, List.mem_append, List.mem_singleton,
    mem_wildcards_toList_iff, Covers, or_comm (b := pattern = CertSpec.anyDomain)]
  rfl

/-- A domain that starts like a pattern has no wildcard that is longer than itself. -/
private theorem wildcard_ne_of_longer {domain long short : String}
    (hm : "*." ++ long ∈ wildcards domain.toList) (hl : short.length < long.length) :
    "*." ++ short ≠ domain := by
  intro hs
  obtain ⟨label, suffix, hp, hd⟩ := mem_wildcards_toList_iff.mp hm
  obtain rfl := (String.append_right_inj "*.").mp hp
  rw [← hs] at hd
  have hlen := congrArg String.length hd
  have h1 : ".".length = 1 := rfl
  rw [length_wildcard, String.length_append, String.length_append, h1] at hlen
  have hlabel : label.toList = [] := by
    rw [← List.length_eq_zero_iff, String.length_toList]
    omega
  have hlist := congrArg String.toList hd
  rw [String.toList_append, String.toList_append, String.toList_append, hlabel] at hlist
  exact absurd (List.cons.inj hlist).1 (by decide)

/-- A domain with a dot is not the pattern of all domains. -/
private theorem any_ne_of_mem_wildcards {domain pattern : String}
    (hm : pattern ∈ wildcards domain.toList) : CertSpec.anyDomain ≠ domain := by
  rintro rfl
  exact absurd hm List.not_mem_nil

/-- Of two forms that differ the first one is narrower. -/
theorem pairwise_lookupForms (domain : String) :
    (lookupForms domain).Pairwise fun pattern other ↦
      pattern ≠ other → Narrower domain pattern other := by
  rw [lookupForms, List.cons_append]
  apply List.pairwise_cons.mpr
  refine ⟨fun other _ hne ↦ ⟨hne.symm, .inl rfl⟩, ?_⟩
  apply List.pairwise_append.mpr
  refine ⟨?_, List.pairwise_singleton _ _, ?_⟩
  · apply (pairwise_wildcards domain.toList).imp_of_mem
    intro pattern other hp ho hl _
    obtain ⟨-, long, rfl, -⟩ := mem_wildcards_toList_iff.mp hp
    obtain ⟨-, short, rfl, -⟩ := mem_wildcards_toList_iff.mp ho
    rw [length_wildcard, length_wildcard, Nat.add_lt_add_iff_right] at hl
    exact ⟨wildcard_ne_of_longer hp hl, .inr (.inl ⟨long, short, rfl, rfl, hl⟩)⟩
  · intro pattern hp other ho hne
    obtain rfl := List.mem_singleton.mp ho
    exact ⟨any_ne_of_mem_wildcards hp, .inr (.inr ⟨hne, rfl⟩)⟩

end ProxySettings.CertStore
