import ProxySettings.Text.Line

/-!
# Texts and their lines

A text is its lines one after the other, each with its end. The end is a line feed, with a carriage
return before it or without, and the last line may do without one. Every text has lines in exactly
one way.
-/

namespace ProxySettings.Text

/-- Characters are cut into lines: a line ends with a line feed, or with a carriage return and a
line feed, and what is left after the last end is a line if it is not empty. -/
inductive CutIntoLines : List Char → List (List Char) → Prop
  | nil : CutIntoLines [] []
  | last {line : List Char} (hne : line ≠ []) (hn : '\n' ∉ line) : CutIntoLines line [line]
  | feed {line rest : List Char} {lines : List (List Char)} (hn : '\n' ∉ line)
    (hr : line.getLast? ≠ some '\r') (h : CutIntoLines rest lines) :
    CutIntoLines (line ++ '\n' :: rest) (line :: lines)
  | returnFeed {line rest : List Char} {lines : List (List Char)} (hn : '\n' ∉ line)
    (h : CutIntoLines rest lines) :
    CutIntoLines (line ++ '\r' :: '\n' :: rest) (line :: lines)

/-- A text has these lines. -/
def HasLines (s : String) (ls : List String) : Prop :=
  CutIntoLines s.toList (ls.map String.toList)

theorem dropReturn_concat (line : List Char) : dropReturn (line ++ ['\r']) = line := by
  simp [dropReturn]

theorem dropReturn_of_ne {line : List Char} (h : line.getLast? ≠ some '\r') :
    dropReturn line = line := by
  rw [dropReturn]
  split
  · next hl => exact absurd hl h
  · rfl

/-- Characters before the first line feed go to the current line. -/
theorem linesFrom_append {chunk : List Char} (hn : '\n' ∉ chunk) (line rest : List Char) :
    linesFrom line (chunk ++ rest) = linesFrom (chunk.reverse ++ line) rest := by
  induction chunk generalizing line with
  | nil => rfl
  | cons c chunk ih =>
    rw [List.mem_cons, not_or] at hn
    rw [List.cons_append, linesFrom, ih hn.2, List.reverse_cons, List.append_assoc,
      List.singleton_append]
    exact fun hc ↦ hn.1 hc.symm

theorem linesFrom_feed {chunk : List Char} (hn : '\n' ∉ chunk) (rest : List Char) :
    linesFrom [] (chunk ++ '\n' :: rest) = dropReturn chunk :: linesFrom [] rest := by
  rw [linesFrom_append hn, linesFrom, List.append_nil, List.reverse_reverse]

/-- What is cut into lines is read as these lines. -/
theorem linesFrom_of_cutIntoLines {cs : List Char} {ls : List (List Char)}
    (h : CutIntoLines cs ls) : linesFrom [] cs = ls := by
  induction h with
  | nil => rfl
  | @last line hne hn =>
    have ha := linesFrom_append hn [] []
    rw [List.append_nil, List.append_nil] at ha
    rw [ha, linesFrom, List.reverse_reverse, List.isEmpty_reverse,
      List.isEmpty_eq_false_iff.mpr hne]
    rfl
  | feed hn hr _ ih => rw [linesFrom_feed hn, dropReturn_of_ne hr, ih]
  | @returnFeed line rest lines hn _ ih =>
    have hc : '\n' ∉ line ++ ['\r'] := by simpa using hn
    rw [List.append_cons, linesFrom_feed hc, dropReturn_concat, ih]

/-- Every text can be cut into lines. -/
theorem exists_cutIntoLines (cs : List Char) : ∃ ls, CutIntoLines cs ls := by
  induction hl : cs.length using Nat.strongRecOn generalizing cs with
  | ind n ih =>
    by_cases hm : '\n' ∈ cs
    · obtain ⟨line, rest, rfl, hn⟩ := List.eq_append_cons_of_mem hm
      rw [List.length_append, List.length_cons] at hl
      obtain ⟨ls, hls⟩ := ih rest.length (by omega) rest rfl
      by_cases hr : line.getLast? = some '\r'
      · obtain ⟨line, rfl⟩ := List.getLast?_eq_some_iff.mp hr
        rw [List.mem_append, not_or] at hn
        refine ⟨line :: ls, ?_⟩
        rw [← List.append_cons]
        exact .returnFeed hn.1 hls
      · exact ⟨line :: ls, .feed hn hr hls⟩
    · cases cs with
      | nil => exact ⟨[], .nil⟩
      | cons c cs => exact ⟨[c :: cs], .last (List.cons_ne_nil c cs) hm⟩

/-- The lines of a text are those that it is cut into. -/
theorem lines_eq_iff {s : String} {ls : List String} : lines s = ls ↔ HasLines s ls := by
  have hmap (ls : List (List Char)) : (ls.map String.ofList).map String.toList = ls := by
    rw [List.map_map]
    exact List.map_id'' (fun _ ↦ String.toList_ofList) ls
  constructor
  · rintro rfl
    obtain ⟨ls, hls⟩ := exists_cutIntoLines s.toList
    rwa [HasLines, lines, hmap, linesFrom_of_cutIntoLines hls]
  · intro h
    rw [lines, linesFrom_of_cutIntoLines h, List.map_map]
    exact List.map_id'' (fun _ ↦ String.ofList_toList) ls

end ProxySettings.Text
