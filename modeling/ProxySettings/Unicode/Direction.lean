import ProxySettings.Unicode.Category

/-!
# Direction and joining

The classes by which texts of mixed direction are ordered, as far as host names have them, and the
classes by which letters join.
-/

namespace ProxySettings.Unicode

/-- The classes of direction. -/
inductive Direction where
  | left
  | right
  | arabic
  | arabicNumber
  | europeanNumber
  | europeanSeparator
  | europeanTerminator
  | commonSeparator
  | mark
  | neutral
  deriving Repr, DecidableEq

private def directionRuns : List (Direction × List Run) := [
  (.right, Run.table
    "5be 5c0 5c3 5c6 5d0-5ea 5ef-5f4 7c0-7ea 7f4-7f5 7fa 7fe-815 81a 824 828 830-83e 840-858
    85e 200f 10800-10805 10808 1080a-10835 10837-10838 1083c 1083f-10855 10857-1089e
    108a7-108af 108e0-108f2 108f4-108f5 108fb-1091b 10920-10939 1093f-10959 10980-109b7
    109bc-109cf 109d2-10a00 10a10-10a13 10a15-10a17 10a19-10a35 10a40-10a48 10a50-10a58
    10a60-10a9f 10ac0-10ae4 10aeb-10af6 10b00-10b35 10b40-10b55 10b58-10b72 10b78-10b91
    10b99-10b9c 10ba9-10baf 10c00-10c48 10cc0-10cf2 10cfa-10cff 10d40-10d4f 10d69-10d85
    10d8e-10d8f 10e80-10ea9 10ead 10eb0-10eb1 10f00-10f27 10f70-10f81 10f86-10f89 10fb0-10fcb
    10fe0-10ff6 1e800-1e8c4 1e8c7-1e8cf 1e922-1e943 1e94b 1e950-1e959 1e95e-1e95f"),
  (.arabic, Run.table
    "608 60b 60d 61b-64a 66d-66f 671-674 679-6d5 6e5-6e6 6ee-6ef 6fa-70d 70f-710 712-72f
    74d-7a5 7b1 860-86a 870-88f 897 8a0-8c9 fbb2-fbd2 fd90-fd91 fdc8-fdce fe73 10d00-10d23
    10ec2-10ec7 10ed0-10ed8 10efa-10efc 10f30-10f45 10f51-10f59 1ec71-1ecb4 1ed01-1ed3d"),
  (.arabicNumber, Run.table "600-605 660-669 66b-66c 6dd 890-891 8e2 10d30-10d39 10e60-10e7e"),
  (.europeanNumber, Run.table "30-39 6f0-6f9 2488-249b 102e1-102fb 1f100"),
  (.europeanSeparator, Run.table "2b 2d 2212"),
  (.europeanTerminator, Run.table
    "23-25 a2-a5 b0-b1 58f 609-60a 66a 9f2-9f3 9fb af1 bf9 e3f 17db 2030-2032 20a0-20a7
    20a9-20c1 212e 2213 a838-a839 11fdd-11fe0 1e2ff"),
  (.commonSeparator, Run.table "2c 2e-2f 3a 60c 2044 fe52"),
  (.neutral, Run.table
    "0-8 e-1b 21-22 26-2a 3b-40 5b-60 7b-84 86-9f a1 a6-a7 a9 ab-ae b6-b7 bb bf d7 f7 2b9-2ba
    2c2-2cf 2d2-2d7 2de-2df 2e5-2ed 2ef-2ff 375 3f6 58a 58d-58e 606-607 60e-60f 6de 6e9
    7f6-7f9 bf3-bf8 bfa c78-c7e f3a-f3d 1390-1399 1400 169b-169c 17f0-17f9 1800-180a 180e 1940
    1944-1945 19de-19ff 200b-200d 2010 2012-2016 2018-2027 2035 2038-203b 203d 203f-2043
    2045-2046 204a-2056 2058-205e 2060-2064 206a-206f 2104 2108 2114 2117-2118 211e-211f
    2123-2129/2 213a 2141-2144 214a-214d 218a-218b 2190-2211 2214-222b 222e 2231-2328
    232b-2335 237b-2394 2396-2426 2440-244a 24eb-26ab 26ad-27ff 2900-2a0b 2a0d-2a73 2a77-2adb
    2add-2b73 2b76-2b95 2b97-2bff 2ce5-2cea 2cf9-2cff 2e00-2e5d 2e80-2e99 2e9b-2e9e 2ea0-2ef2
    2ff0-2ffb 3001 3003-3004 3008-3020 3030 3037 303d-303f 30a0 30fb 31c0-31e3 4dc0-4dff
    a490-a4c6 a60d-a60f a673 a67e-a67f a700-a721 a788 a828-a82b a874-a877 ab6a-ab6b fd3e-fd4f
    fdcf fdfd-fdff fe12 fe19 fe30 fe45-fe46 feff fff9-fffd 10101 10140-1018c 10190-1019c 101a0
    1091f 10b39-10b3f 11052-11065 11660-1166c 11fd5-11fdc 11fe1-11ff1 16fe2 1bca0-1bca3
    1d173-1d17a 1d1e9-1d1ea 1d200-1d241 1d245 1d300-1d356 1eef0-1eef1 1f000-1f02b 1f030-1f093
    1f0a0-1f0ae 1f0b1-1f0bf 1f0c1-1f0cf 1f0d1-1f0f5 1f10b-1f10f 1f12f 1f16d-1f16f 1f1ad
    1f260-1f265 1f300-1f6d7 1f6dc-1f6ec 1f6f0-1f6fc 1f700-1f776 1f77b-1f7d9 1f7e0-1f7eb 1f7f0
    1f800-1f80b 1f810-1f847 1f850-1f859 1f860-1f887 1f890-1f8ad 1f8b0-1f8b1 1f900-1fa53
    1fa60-1fa6d 1fa70-1fa7c 1fa80-1fa88 1fa90-1fabd 1fabf-1fac5 1face-1fadb 1fae0-1fae8
    1faf0-1faf8 1fb00-1fb92 1fb94-1fbca e0001 e0020-e007f")]

private def marks : CharSet :=
  .diff (.union Category.nonspacingMark.set Category.enclosingMark.set)
    (.runs (Run.table "cbf cc6 11a07-11a08 11c3f"))

/-- The class of direction of a character; letters are written from left to right unless a table
says otherwise. -/
def direction (c : Char) : Direction :=
  ((directionRuns.find? fun row ↦ row.2.any (·.contains c.toNat)).map (·.1)).getD
    (if marks.contains c then .mark else .left)

private theorem find?_table_cons {d : Direction} {cs : List Char} {start n : Nat}
    (rows : List (Direction × List Run))
    (h : ∀ r ∈ (Text.wordsOf cs).map Run.ofText, start ≤ r.first) (hn : n < start) :
    ((d, Run.table (String.ofList cs)) :: rows).find? (fun row ↦ row.2.any (·.contains n)) =
      rows.find? fun row ↦ row.2.any (·.contains n) := by
  have hc := Run.any_contains_eq_false (Run.forall_mem_table h) hn
  exact List.find?_cons_of_neg (by rw [hc]; exact Bool.false_ne_true)

private theorem find?_table_cons_of_first {d : Direction} {cs : List Char} {first : Run} {n : Nat}
    (rows : List (Direction × List Run))
    (h : ((Text.wordsOf cs).map Run.ofText).head? = some first) (hn : first.contains n = true) :
    ((d, Run.table (String.ofList cs)) :: rows).find? (fun row ↦ row.2.any (·.contains n)) =
      some (d, Run.table (String.ofList cs)) := by
  refine List.find?_cons_of_pos (List.any_eq_true.mpr ⟨first, ?_, hn⟩)
  rw [Run.table, String.toList_ofList]
  exact List.mem_of_mem_head? h

set_option maxRecDepth 100000 in
private theorem find?_directionRuns_digit {n : Nat} (h : 0x30 ≤ n ∧ n ≤ 0x39) :
    ∃ runs, directionRuns.find? (fun row ↦ row.2.any (·.contains n)) =
      some (.europeanNumber, runs) := by
  have hlt : n < 0x580 := by omega
  unfold directionRuns
  rw [find?_table_cons _ (by decide +kernel) hlt, find?_table_cons _ (by decide +kernel) hlt,
    find?_table_cons _ (by decide +kernel) hlt,
    find?_table_cons_of_first _ (by decide +kernel) ((Run.contains_between 0x30 0x39 _).mpr h)]
  exact ⟨_, rfl⟩

/-- The digits of ASCII are numbers of texts from left to right. -/
theorem direction_eq_europeanNumber {c : Char} (h : 0x30 ≤ c.toNat ∧ c.toNat ≤ 0x39) :
    direction c = .europeanNumber := by
  obtain ⟨runs, hr⟩ := find?_directionRuns_digit h
  rw [direction, hr, Option.map_some, Option.getD_some]

/-- The letters that join with both neighbours, with the one after them, and with the one before
them. -/
inductive Joining where
  | both
  | after
  | before
  | transparent
  | none
  deriving Repr, DecidableEq

private def joiningRuns : List (Joining × List Run) := [
  (.both, Run.table
    "620 626 628 62a-62e 633-63f 641-647 649-64a 66e-66f 679-687 69a-6bf 6c1-6c2 6cc 6ce
    6d0-6d1 6fa-6fc 6ff 712-714 71a-71d 71f-727 729 72b 72d-72e 74e-758 75c-76a 76d-770 772
    775-777 77a-77f 7ca-7ea 841-845 848 84a-853 855 860 862-865 868 886 889-88d 8a0-8a9
    8af-8b0 8b3-8b8 8ba-8c8 1807 1820-1878 1887-18a8 18aa a840-a871 10ac0-10ac4 10ad3-10ad6
    10ad8-10adc 10ade-10ae0 10aeb-10aee 10b80 10b82 10b86-10b88 10b8a-10b8b 10b8d 10b90
    10bad-10bae 10d01-10d21 10d23 10f30-10f32 10f34-10f44 10f51-10f53 10f70-10f73 10f76-10f81
    10fb0 10fb2-10fb3 10fb8 10fbb-10fbc 10fbe-10fbf 10fc1 10fc4 10fca 1e922-1e943"),
  (.after, Run.table "a872 10acd 10ad7 10d00 10fcb"),
  (.before, Run.table
    "622-625 627 629 62f-632 648 671-673 688-699 6c0 6c3-6cb 6cd 6cf 6d2-6d3 6d5 6ee-6ef 710
    715-719 71e 728-72c/2 72f 74d 759-75b 76b-76c 771 773-774 778-779 840 846-847 849 854
    856-858 867 869-86a 870-882 88e 8aa-8ac 8ae 8b1-8b2 8b9 10ac5 10ac7 10ac9-10aca
    10ace-10ad2 10add 10ae1 10ae4 10aef 10b81 10b83-10b85 10b89 10b8c 10b8e-10b8f 10b91
    10ba9-10bac 10d22 10f33 10f54 10f74-10f75 10fb4-10fb6 10fb9-10fba 10fbd 10fc2-10fc3 10fc9")]

/-- How a character joins; marks let their neighbours join across them. -/
def joining (c : Char) : Joining :=
  match joiningRuns.find? fun row ↦ row.2.any (·.contains c.toNat) with
  | some row => row.1
  | none =>
    if Category.nonspacingMark.set.contains c || Category.enclosingMark.set.contains c then
      .transparent
    else .none

end ProxySettings.Unicode
