/-!
# Blank characters, trimming and words

A blank is a character with the Unicode property `White_Space`. Trimming drops blanks at both ends
of a text; the words of a text are its maximal runs of other characters.
-/

namespace ProxySettings.Text

/-- The characters with the Unicode property `White_Space`. -/
def isBlank (c : Char) : Bool :=
  let n := c.toNat
  (9 ≤ n && n ≤ 13) || n == 0x20 || n == 0x85 || n == 0xa0 || n == 0x1680 ||
    (0x2000 ≤ n && n ≤ 0x200a) || n == 0x2028 || n == 0x2029 || n == 0x202f || n == 0x205f ||
    n == 0x3000

/-- Drop a final run of characters that satisfy `p`. -/
def dropEndWhile (p : Char → Bool) (cs : List Char) : List Char :=
  (cs.reverse.dropWhile p).reverse

/-- Drop the runs of characters that satisfy `p` at both ends. -/
def trimWhile (p : Char → Bool) (cs : List Char) : List Char :=
  dropEndWhile p (cs.dropWhile p)

/-- Drop the blanks at both ends of a text. -/
def trim (s : String) : String := String.ofList (trimWhile isBlank s.toList)

/-- Split at every character that satisfies `p`; there is always one piece more than there are
separators. -/
def splitOnAll (p : Char → Bool) : List Char → List (List Char)
  | [] => [[]]
  | c :: rest =>
    if p c then [] :: splitOnAll p rest
    else
      match splitOnAll p rest with
      | [] => [[c]]
      | piece :: pieces => (c :: piece) :: pieces

/-- The maximal runs of characters that are not blank, in order. -/
def wordsOf (cs : List Char) : List (List Char) :=
  (splitOnAll isBlank cs).filter fun w ↦ !w.isEmpty

/-- The words of a text. -/
def words (s : String) : List String := (wordsOf s.toList).map String.ofList

/-- Cut at the first separator: the part before it and the part after it. -/
def cutAt (sep : Char) : List Char → Option (List Char × List Char)
  | [] => none
  | c :: rest =>
    if c = sep then some ([], rest)
    else (cutAt sep rest).map fun (before, after) ↦ (c :: before, after)

/-- Cut a string at the first separator. -/
def cut (sep : Char) (s : String) : Option (String × String) :=
  (cutAt sep s.toList).map fun (before, after) ↦ (String.ofList before, String.ofList after)

/-- A cut names the separator's first place: joining the parts restores the text, and the part
before holds no separator. -/
theorem cutAt_eq_some_iff {sep : Char} {cs before after : List Char} :
    cutAt sep cs = some (before, after) ↔ cs = before ++ sep :: after ∧ sep ∉ before := by
  induction cs generalizing before with
  | nil => simp [cutAt]
  | cons c rest ih =>
    unfold cutAt
    split
    · next h =>
      subst h
      cases before with
      | nil => simp [eq_comm]
      | cons d ds =>
        simp only [Option.some.injEq, Prod.mk.injEq, List.nil_eq, List.cons_append,
          List.cons.injEq, List.mem_cons, not_or, reduceCtorEq, false_and, false_iff]
        rintro ⟨⟨rfl, _⟩, h, _⟩
        exact h rfl
    · next h =>
      cases before with
      | nil =>
        simp only [Option.map_eq_some_iff, Prod.mk.injEq, reduceCtorEq, false_and,
          and_false, exists_false, List.nil_append, List.cons.injEq, false_iff]
        rintro ⟨⟨rfl, _⟩, _⟩
        exact h rfl
      | cons d ds =>
        simp only [Option.map_eq_some_iff, Prod.exists, Prod.mk.injEq, List.cons.injEq,
          List.cons_append, List.mem_cons, not_or]
        constructor
        · rintro ⟨b, a, hb, ⟨rfl, rfl⟩, rfl⟩
          obtain ⟨hr, hm⟩ := ih.mp hb
          exact ⟨⟨rfl, hr⟩, fun e ↦ h e.symm, hm⟩
        · rintro ⟨⟨rfl, hr⟩, _, hm⟩
          exact ⟨ds, after, ih.mpr ⟨hr, hm⟩, ⟨rfl, rfl⟩, rfl⟩

end ProxySettings.Text
