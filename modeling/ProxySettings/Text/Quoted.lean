import ProxySettings.Text.Ascii
import ProxySettings.Unicode.Property

/-!
# Quoted text

A text in double quotes as it is shown in reports: quotes and backslashes are escaped, controls by a
letter where they have one, and every other character that would not show by itself as its code
point in braces.
-/

namespace ProxySettings.Text

open Unicode (Category)

private def hidden : Unicode.CharSet :=
  .unions ((.diff Category.spaceSeparator.set (.single ' ')) :: Unicode.Property.graphemeExtend ::
    [Category.control, .format, .privateUse, .unassigned, .lineSeparator, .paragraphSeparator].map
      Category.set)

/-- A character that shows as itself and joins no other one. -/
def isShown (c : Char) : Bool :=
  if c.toNat < 127 then 32 ≤ c.toNat else !hidden.contains c

/-- One character of a quoted text. -/
def quotedChar (c : Char) : String :=
  match c with
  | '"' => "\\\""
  | '\\' => "\\\\"
  | '\t' => "\\t"
  | '\r' => "\\r"
  | '\n' => "\\n"
  | '\x00' => "\\0"
  | c => if isShown c then c.toString else "\\u\x7b" ++ hexText c.toNat ++ "\x7d"

/-- A text in quotes. -/
def quoted (s : String) : String := "\"" ++ String.join (s.toList.map quotedChar) ++ "\""

/-- A name in quotes, in which single quotes are escaped as well. -/
def quotedName (s : String) : String :=
  let shown (c : Char) : String := if c = '\x27' then "\\\x27" else quotedChar c
  "\"" ++ String.join (s.toList.map shown) ++ "\""

/-- Items between brackets, separated by commas. -/
def bracketed (items : List String) : String := "[" ++ ", ".intercalate items ++ "]"

/-- A value that may be absent. -/
def optional : Option String → String
  | some s => "Some(" ++ s ++ ")"
  | none => "None"

end ProxySettings.Text
