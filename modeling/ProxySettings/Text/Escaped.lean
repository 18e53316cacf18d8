import ProxySettings.Text.Ascii

/-!
# Texts with escapes

A text between double quotes, in which a backslash starts an escape: a letter for a control, a quote
or a backslash for itself, and `u` or `U` for the code point of four or eight hexadecimal digits.
Controls other than the tab stand only as escapes.
-/

namespace ProxySettings.Text.Escaped

/-- The character of a code point in hexadecimal digits; surrogates are none. -/
def codePoint? (digits : List Char) : Option Char :=
  match number? 16 digits with
  | some n => if n < 0xd800 ∨ (0xe000 ≤ n ∧ n < 0x110000) then some (Char.ofNat n) else none
  | none => none

/-- The character of an escape with one letter. -/
def letter? (c : Char) : Option Char :=
  match c with
  | '"' => some '"'
  | '\\' => some '\\'
  | 'b' => some '\x08'
  | 'f' => some '\x0c'
  | 'n' => some '\n'
  | 'r' => some '\r'
  | 't' => some '\t'
  | _ => none

/-- A character that stands for itself. -/
def isPlain (c : Char) : Bool := c == '\t' || (32 ≤ c.toNat && c.toNat ≠ 127)

/-- The character of the escape that follows a backslash, and what follows the escape. -/
def escape? : List Char → Option (Char × List Char)
  | 'u' :: a :: b :: c :: d :: rest => (codePoint? [a, b, c, d]).map (·, rest)
  | 'U' :: a :: b :: c :: d :: e :: f :: g :: h :: rest =>
    (codePoint? [a, b, c, d, e, f, g, h]).map (·, rest)
  | c :: rest => (letter? c).map (·, rest)
  | [] => none

theorem length_of_escape? {cs rest : List Char} {c : Char} (h : escape? cs = some (c, rest)) :
    rest.length < cs.length := by
  unfold escape? at h
  split at h
  · obtain ⟨_, _, h⟩ := Option.map_eq_some_iff.mp h
    simp only [← (Prod.mk.inj h).2, List.length_cons]
    omega
  · obtain ⟨_, _, h⟩ := Option.map_eq_some_iff.mp h
    simp only [← (Prod.mk.inj h).2, List.length_cons]
    omega
  · obtain ⟨_, _, h⟩ := Option.map_eq_some_iff.mp h
    simp only [← (Prod.mk.inj h).2, List.length_cons]
    omega
  · exact absurd h (by simp)

/-- Read a text up to its closing quote; the result is the text and what follows. -/
def read (cs : List Char) : Option (List Char × List Char) :=
  match cs with
  | [] => none
  | c :: rest =>
    if c = '"' then some ([], rest)
    else if c = '\\' then
      match _ : escape? rest with
      | some (e, after) => (read after).map fun (text, after) ↦ (e :: text, after)
      | none => none
    else if isPlain c then (read rest).map fun (text, after) ↦ (c :: text, after)
    else none
termination_by cs.length
decreasing_by
  · have := length_of_escape? ‹escape? rest = some (e, after)›
    simp only [List.length_cons]
    omega
  · simp

end ProxySettings.Text.Escaped
