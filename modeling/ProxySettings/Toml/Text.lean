import ProxySettings.Text.Escaped

/-!
# Texts in TOML

A text is written in double quotes with escapes, or in single quotes as it stands. Three quotes
start a text over several lines. The readers take what follows the opening quotes and return the
text with what follows its end.
-/

namespace ProxySettings.Toml

/-- A space or a tab. -/
def isSpace (c : Char) : Bool := c == ' ' || c == '\t'

/-- A line break, as one character, and what follows it. -/
def lineBreak? : List Char → Option (List Char)
  | '\n' :: rest => some rest
  | '\r' :: '\n' :: rest => some rest
  | _ => none

theorem length_of_lineBreak? {cs rest : List Char} (h : lineBreak? cs = some rest) :
    rest.length < cs.length := by
  unfold lineBreak? at h
  split at h
  · obtain rfl := Option.some.inj h
    exact Nat.lt_succ_self _
  · obtain rfl := Option.some.inj h
    simp only [List.length_cons]
    omega
  · cases h

/-- The text of an optional line break after three opening quotes. -/
private def afterBreak (cs : List Char) : List Char := (lineBreak? cs).getD cs

/-- Drop spaces and line breaks. -/
def skipBlank (cs : List Char) : List Char :=
  match cs with
  | [] => []
  | c :: rest =>
    if isSpace c then skipBlank rest
    else
      match _ : lineBreak? (c :: rest) with
      | some after => skipBlank after
      | none => c :: rest
termination_by cs.length
decreasing_by
  · simp
  · exact length_of_lineBreak? ‹lineBreak? (c :: rest) = some after›

theorem length_skipBlank_le (cs : List Char) : (skipBlank cs).length ≤ cs.length := by
  fun_induction skipBlank cs with
  | case1 => simp
  | case2 c rest h ih => simp only [List.length_cons]; omega
  | case3 c rest h after hb ih => have := length_of_lineBreak? hb; omega
  | case4 => simp

/-- What follows a backslash that ends a line: blanks up to the next line's text are dropped. -/
private def joinedLine? (cs : List Char) : Option (List Char) :=
  (lineBreak? (cs.dropWhile isSpace)).map skipBlank

private theorem length_of_joinedLine? {cs rest : List Char} (h : joinedLine? cs = some rest) :
    rest.length < cs.length := by
  obtain ⟨mid, hm, rfl⟩ := Option.map_eq_some_iff.mp h
  have h1 := length_of_lineBreak? hm
  have h2 := length_skipBlank_le mid
  have h3 : (cs.dropWhile isSpace).length ≤ cs.length := by
    have := congrArg List.length (List.takeWhile_append_dropWhile (p := isSpace) (l := cs))
    simp only [List.length_append] at this
    omega
  omega

/-- The number of quotes that start a text, of which at most five count. -/
private def quoteRun (q : Char) (cs : List Char) : Nat := ((cs.take 5).takeWhile (· == q)).length

/-- Read a text over several lines up to three quotes; one or two more quotes belong to the text. -/
private def readLines (q : Char) (isEscaped : Bool) (cs : List Char) :
    Option (List Char × List Char) :=
  match cs with
  | [] => none
  | c :: rest =>
    if c = q ∧ 3 ≤ quoteRun q cs then
      let n := quoteRun q cs
      some (List.replicate (n - 3) q, cs.drop n)
    else if c = '\\' ∧ isEscaped then
      match _ : joinedLine? rest with
      | some after => readLines q isEscaped after
      | none =>
        match _ : Text.Escaped.escape? rest with
        | some (e, after) =>
          (readLines q isEscaped after).map fun (text, after) ↦ (e :: text, after)
        | none => none
    else
      match _ : lineBreak? (c :: rest) with
      | some after => (readLines q isEscaped after).map fun (text, after) ↦ ('\n' :: text, after)
      | none =>
        if Text.Escaped.isPlain c then
          (readLines q isEscaped rest).map fun (text, after) ↦ (c :: text, after)
        else none
termination_by cs.length
decreasing_by
  · have := length_of_joinedLine? ‹joinedLine? rest = some after›
    simp only [List.length_cons]
    omega
  · have := Text.Escaped.length_of_escape? ‹Text.Escaped.escape? rest = some (e, after)›
    simp only [List.length_cons]
    omega
  · exact length_of_lineBreak? ‹lineBreak? (c :: rest) = some after›
  · simp

/-- Read a text in single quotes on one line. -/
private def readLiteral : List Char → Option (List Char × List Char)
  | [] => none
  | '\x27' :: rest => some ([], rest)
  | c :: rest =>
    if Text.Escaped.isPlain c then (readLiteral rest).map fun (text, after) ↦ (c :: text, after)
    else none

/-- Read a text on one line, from its opening quote on. -/
def readLine? (cs : List Char) : Option (String × List Char) :=
  match cs with
  | '"' :: rest =>
    (Text.Escaped.read rest).map fun (text, after) ↦ (String.ofList text, after)
  | '\x27' :: rest => (readLiteral rest).map fun (text, after) ↦ (String.ofList text, after)
  | _ => none

/-- Read a text, from its opening quotes on. -/
def readText? (cs : List Char) : Option (String × List Char) :=
  match cs with
  | '"' :: '"' :: '"' :: rest =>
    (readLines '"' true (afterBreak rest)).map fun (text, after) ↦ (String.ofList text, after)
  | '\x27' :: '\x27' :: '\x27' :: rest =>
    (readLines '\x27' false (afterBreak rest)).map fun (text, after) ↦ (String.ofList text, after)
  | cs => readLine? cs

end ProxySettings.Toml
