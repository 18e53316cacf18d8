import ProxySettings.Unicode.Run

/-!
# Case orbits

Characters are equal up to case when simple case folding takes them to one character. The orbit of a
character holds all characters equal to it up to case, itself first. Most orbits are a pair, written
as a run of first members and the distance to the second ones; the few larger orbits are listed.
-/

namespace ProxySettings.Unicode

private def pairText : String :=
  "41-4a+20 4c-52+20 54-5a+20 c0-c4+20 c6-d6+20 d8-de+20 df+1dbf ff+79 100-12e/2+1 132-136/2+1
  139-147/2+1 14a-176/2+1 179-17d/2+1 180+c3 181+d2 182+1 184+1 186+ce 187+1 189-18a+cd 18b+1
  18e+4f 18f+ca 190+cb 191+1 193+cd 194+cf 195+61 196+d3 197+d1 198+1 19a+a3 19b+a641 19c+d3
  19d+d5 19e+82 19f+d6 1a0-1a4/2+1 1a6+da 1a7+1 1a9+da 1ac+1 1ae+da 1af+1 1b1-1b2+d9 1b3+1
  1b5+1 1b7+db 1b8+1 1bc+1 1bf+38 1cd-1db/2+1 1de-1ee/2+1 1f4+1 1f8-21e/2+1 222-232/2+1
  23a+2a2b 23b+1 23e+2a28 23f-240+2a3f 241+1 244+45 245+47 246-24e/2+1 250+2a1f 251+2a1c
  252+2a1e 25c+a54f 261+a54b 264+a567 265+a528 266+a544 26a+a544 26b+29f7 26c+a541 271+29fd
  27d+29e7 282+a543 287+a52a 29d+a515 29e+a512 370+1 372+1 376+1 37b-37d+82 37f+74 386+26
  388-38a+25 38c+40 38e-38f+3f 390+1c43 391+20 393-394+20 396-397+20 39b+20 39d-39f+20
  3a4-3a5+20 3a7-3a8+20 3aa-3ab+20 3b0+1c33 3cf+8 3d8-3ee/2+1 3f2+7 3f7+1 3fa+1 400-40f+50
  410-411+20 413+20 415-41d+20 41f-420+20 423-429+20 42b-42f+20 460+1 464-480/2+1 48a-4be/2+1
  4c0+f 4c1-4cd/2+1 4d0-52e/2+1 531-556+30 10a0-10c5+1c60 10c7+1c60 10cd+1c60 10d0-10fa+bc0
  10fd-10ff+bc0 13a0-13ef+97d0 13f0-13f5+8 1c89+1 1d79+8a04 1d7d+ee6 1d8e+8a38 1e00-1e5e/2+1
  1e62-1e94/2+1 1ea0-1efe/2+1 1f00-1f07+8 1f10-1f15+8 1f20-1f27+8 1f30-1f37+8 1f40-1f45+8
  1f51-1f57/2+8 1f60-1f67+8 1f70-1f71+4a 1f72-1f75+56 1f76-1f77+64 1f78-1f79+80 1f7a-1f7b+70
  1f7c-1f7d+7e 1f80-1f87+8 1f90-1f97+8 1fa0-1fa7+8 1fb0-1fb1+8 1fb3+9 1fc3+9 1fd0-1fd1+8
  1fe0-1fe1+8 1fe5+7 1ff3+9 2132+1c 2160-216f+10 2183+1 24b6-24cf+1a 2c00-2c2f+30 2c60+1
  2c67-2c6b/2+1 2c72+1 2c75+1 2c80-2ce2/2+1 2ceb+1 2ced+1 2cf2+1 a640-a648/2+1 a64c-a66c/2+1
  a680-a69a/2+1 a722-a72e/2+1 a732-a76e/2+1 a779+1 a77b+1 a77e-a786/2+1 a78b+1 a790+1 a792+1
  a794+30 a796-a7a8/2+1 a7b3+3a0 a7b4-a7c2/2+1 a7c7+1 a7c9+1 a7cc-a7da/2+1 a7f5+1 fb05+1
  ff21-ff3a+20 10400-10427+28 104b0-104d3+28 10570-1057a+27 1057c-1058a+27 1058c-10592+27
  10594-10595+27 10c80-10cb2+40 10d50-10d65+20 118a0-118bf+20 16e40-16e5f+20 16ea0-16eb8+1b
  1e900-1e921+22"

private def largerText : String :=
  "4b=6b=212a 53=73=17f b5=39c=3bc c5=e5=212b 1c4=1c5=1c6 1c7=1c8=1c9 1ca=1cb=1cc 1f1=1f2=1f3
  345=399=3b9=1fbe 392=3b2=3d0 395=3b5=3f5 398=3b8=3d1=3f4 39a=3ba=3f0 3a0=3c0=3d6 3a1=3c1=3f1
  3a3=3c2=3c3 3a6=3c6=3d5 3a9=3c9=2126 412=432=1c80 414=434=1c81 41e=43e=1c82 421=441=1c83
  422=442=1c84=1c85 42a=44a=1c86 462=463=1c87 1c88=a64a=a64b 1e60=1e61=1e9b"

/-- The pairs whose first member lies in a run, all with one distance between the members. -/
structure PairRun where
  firsts : Run
  distance : Nat
  deriving Repr, DecidableEq

private def pairRun (cs : List Char) : PairRun :=
  let (span, distance) := (Text.cutAt '+' cs).getD (cs, [])
  ⟨Run.ofText span, (Text.number? 16 distance).getD 0⟩

/-- The orbits of two characters. -/
def pairRuns : List PairRun := (Text.wordsOf pairText.toList).map pairRun

/-- The orbits of three or more characters. -/
def largerOrbits : List (List Nat) :=
  (Text.wordsOf largerText.toList).map fun cs ↦
    (Text.splitOnAll (· == '=') cs).map fun d ↦ (Text.number? 16 d).getD 0

private def partnerIn (n : Nat) : List PairRun → Option Nat
  | [] => none
  | p :: rest =>
    if p.firsts.contains n then some (n + p.distance)
    else if p.distance ≤ n && p.firsts.contains (n - p.distance) then some (n - p.distance)
    else partnerIn n rest

private def partnersIn (larger : List (List Nat)) (pairs : List PairRun) (n : Nat) : List Nat :=
  match larger.find? (·.contains n) with
  | some members => members.filter (· != n)
  | none => (partnerIn n pairs).toList

/-- The other code points of the orbit of a code point. -/
def casePartners (n : Nat) : List Nat := partnersIn largerOrbits pairRuns n

/-- The characters equal to a character up to case, itself first. -/
def orbit (c : Char) : List Char := c :: (casePartners c.toNat).map Char.ofNat

/-! ## Orbits of ASCII letters -/

/-- The first runs of pairs, which are those of ASCII letters. -/
def asciiPairRuns : List PairRun :=
  [⟨.between 0x41 0x4a, 0x20⟩, ⟨.between 0x4c 0x52, 0x20⟩, ⟨.between 0x54 0x5a, 0x20⟩]

/-- The first larger orbits, with the letters that have relatives beyond ASCII. -/
def asciiLargerOrbits : List (List Nat) := [[0x4b, 0x6b, 0x212a], [0x53, 0x73, 0x17f]]

/-- The other code points of the orbit of an ASCII code point. -/
private def asciiPartners (n : Nat) : List Nat := partnersIn asciiLargerOrbits asciiPairRuns n

private theorem pairRuns_eq {cs : List Char} (ht : pairText = String.ofList cs) :
    pairRuns = (Text.wordsOf cs).map pairRun := by
  rw [pairRuns, ht, String.toList_ofList]

private theorem largerOrbits_eq {cs : List Char} (ht : largerText = String.ofList cs) :
    largerOrbits = (Text.wordsOf cs).map fun cs ↦
      (Text.splitOnAll (· == '=') cs).map fun d ↦ (Text.number? 16 d).getD 0 := by
  rw [largerOrbits, ht, String.toList_ofList]

set_option maxRecDepth 100000 in
theorem pairRuns_split :
    pairRuns.take 3 = asciiPairRuns ∧ ∀ p ∈ pairRuns.drop 3, 0x80 ≤ p.firsts.first := by
  rw [pairRuns_eq (by unfold pairText; rfl)]
  decide +kernel

set_option maxRecDepth 100000 in
theorem largerOrbits_split : largerOrbits.take 2 = asciiLargerOrbits ∧
    ∀ members ∈ largerOrbits.drop 2, ∀ n ∈ members, 0x80 ≤ n := by
  rw [largerOrbits_eq (by unfold largerText; rfl)]
  decide +kernel

private theorem partnerIn_eq_none {n : Nat} {runs : List PairRun}
    (h : ∀ p ∈ runs, n < p.firsts.first) : partnerIn n runs = none := by
  induction runs with
  | nil => rfl
  | cons p runs ih =>
    obtain ⟨hp, hruns⟩ := List.forall_mem_cons.mp h
    have hs : p.firsts.contains (n - p.distance) = false :=
      Run.contains_eq_false_of_lt (Nat.lt_of_le_of_lt (Nat.sub_le ..) hp)
    rw [partnerIn, Run.contains_eq_false_of_lt hp, hs, Bool.and_false,
      if_neg Bool.false_ne_true, if_neg Bool.false_ne_true]
    exact ih hruns

/-- Pairs beyond a code point do not give it a partner. -/
private theorem partnerIn_append {n : Nat} {rest : List PairRun}
    (h : ∀ p ∈ rest, n < p.firsts.first) (runs : List PairRun) :
    partnerIn n (runs ++ rest) = partnerIn n runs := by
  induction runs with
  | nil => exact partnerIn_eq_none h
  | cons p runs ih => rw [List.cons_append, partnerIn, partnerIn, ih]

private theorem casePartners_of_ascii {n : Nat} (h : n < 0x80) :
    casePartners n = asciiPartners n := by
  obtain ⟨hp, hprest⟩ := pairRuns_split
  obtain ⟨hl, hlrest⟩ := largerOrbits_split
  have hpairs : partnerIn n pairRuns = partnerIn n asciiPairRuns := by
    rw [← List.take_append_drop 3 pairRuns, hp]
    exact partnerIn_append (fun p hm ↦ Nat.lt_of_lt_of_le h (hprest p hm)) _
  have hnone : (largerOrbits.drop 2).find? (·.contains n) = none := by
    rw [List.find?_eq_none]
    intro members hm hc
    exact absurd (hlrest members hm n (List.contains_iff_mem.mp hc)) (Nat.not_le.mpr h)
  have hlarger : largerOrbits.find? (·.contains n) = asciiLargerOrbits.find? (·.contains n) := by
    rw [← List.take_append_drop 2 largerOrbits, hl, List.find?_append, hnone, Option.or_none]
  rw [casePartners, asciiPartners, partnersIn, partnersIn, hlarger, hpairs]

private theorem toNat_ofNat_asciiPartners :
    ∀ n < 0x80, ∀ m ∈ asciiPartners n, (Char.ofNat m).toNat = m := by
  decide +kernel

/-- Within ASCII only letters have a partner, and they have one. -/
private theorem filter_asciiPartners : ∀ n < 0x80, (asciiPartners n).filter (· < 0x80) =
    if 65 ≤ n ∧ n ≤ 90 then [n + 32] else if 97 ≤ n ∧ n ≤ 122 then [n - 32] else [] := by
  decide +kernel

private theorem mem_asciiPartners_iff {m n : Nat} (hn : n < 0x80) (hm : m < 0x80) :
    m ∈ asciiPartners n ↔
      65 ≤ n ∧ n ≤ 90 ∧ m = n + 32 ∨ 97 ≤ n ∧ n ≤ 122 ∧ m + 32 = n := by
  have hf : m ∈ asciiPartners n ↔ m ∈ (asciiPartners n).filter (· < 0x80) := by
    rw [List.mem_filter, decide_eq_true hm, and_iff_left rfl]
  rw [hf, filter_asciiPartners n hn]
  split
  · rw [List.mem_singleton]
    omega
  · split
    · rw [List.mem_singleton]
      omega
    · simp only [List.not_mem_nil, false_iff]
      omega

/-- ASCII characters are in one orbit exactly if they are equal up to the case of ASCII letters. -/
theorem mem_orbit_iff_of_ascii {c d : Char} (hc : c.toNat < 0x80) (hd : d.toNat < 0x80) :
    d ∈ orbit c ↔ d.toLower = c.toLower := by
  have hmap : d ∈ (asciiPartners c.toNat).map Char.ofNat ↔ d.toNat ∈ asciiPartners c.toNat := by
    rw [List.mem_map]
    constructor
    · rintro ⟨n, hn, rfl⟩
      rwa [toNat_ofNat_asciiPartners c.toNat hc n hn]
    · exact fun h ↦ ⟨d.toNat, h, Char.ofNat_toNat d⟩
  rw [orbit, casePartners_of_ascii hc, List.mem_cons, hmap, mem_asciiPartners_iff hc hd,
    ← Char.toNat_inj, ← Char.toNat_inj, Text.toNat_toLower, Text.toNat_toLower]
  split <;> split <;> omega

private theorem mem_asciiPartners_lower : ∀ n < 0x80, 65 ≤ n → n ≤ 90 →
    (∀ m ∈ n :: asciiPartners n, m ∈ (n + 32) :: asciiPartners (n + 32)) ∧
      ∀ m ∈ (n + 32) :: asciiPartners (n + 32), m ∈ n :: asciiPartners n := by
  decide +kernel

private theorem orbit_eq_map (c : Char) :
    orbit c = (c.toNat :: casePartners c.toNat).map Char.ofNat := by
  rw [List.map_cons, Char.ofNat_toNat, orbit]

/-- A capital and its lower case have one orbit. -/
private theorem mem_orbit_lower {c d e : Char} (hlow : 65 ≤ c.toNat) (hhigh : c.toNat ≤ 90)
    (hd : d.toNat = c.toNat + 32) : e ∈ orbit c ↔ e ∈ orbit d := by
  have hc : c.toNat < 0x80 := by omega
  have hdlt : c.toNat + 32 < 0x80 := by omega
  obtain ⟨hsub, hsup⟩ := mem_asciiPartners_lower c.toNat hc hlow hhigh
  rw [orbit_eq_map, orbit_eq_map, hd, casePartners_of_ascii hc, casePartners_of_ascii hdlt]
  exact ⟨fun h ↦ List.map_subset _ hsub h, fun h ↦ List.map_subset _ hsup h⟩

/-- Characters that are equal up to the case of ASCII letters have one orbit. -/
theorem mem_orbit_congr {c d : Char} (h : c.toLower = d.toLower) (e : Char) :
    e ∈ orbit c ↔ e ∈ orbit d := by
  obtain rfl | ⟨hlow, hhigh, hd⟩ | ⟨hlow, hhigh, hc⟩ := Text.toLower_eq_toLower_iff.mp h
  · rfl
  · exact mem_orbit_lower hlow hhigh hd
  · exact (mem_orbit_lower hlow hhigh hc).symm

end ProxySettings.Unicode
