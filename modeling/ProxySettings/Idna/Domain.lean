import ProxySettings.Idna.Mapping
import ProxySettings.Idna.Punycode
import ProxySettings.Unicode.Composition
import ProxySettings.Unicode.Direction
import ProxySettings.Text.Blank

/-!
# Domain names in ASCII

A domain name is mapped and composed, cut into labels at its dots, and each label beyond ASCII is
written in Punycode after the mark `xn--`. Labels with characters that no host name has, in orders
that do not display, or with joiners that join nothing are refused.
-/

namespace ProxySettings.Idna

open Unicode (Direction Joining direction joining combiningClass)

/-- The mark of a label in Punycode. -/
def mark : List Char := "xn--".toList

/-! ## Joiners -/

/-- The characters that join or separate their neighbours. -/
def isJoiner (c : Char) : Bool := c.toNat == 0x200c || c.toNat == 0x200d

private def isVirama (c : Char) : Bool := combiningClass c.toNat == 9

private def joinsAfter (before : List Char) : Bool :=
  match before.find? fun c ↦ joining c != .transparent with
  | some c => joining c == .both || joining c == .after
  | none => false

private def joinsBefore (after : List Char) : Bool :=
  match after.find? fun c ↦ joining c != .transparent with
  | some c => joining c == .both || joining c == .before
  | none => false

/-- Every joiner follows a virama; a joiner that separates may also stand between letters that would
join. The characters before the text are given last one first. -/
def joinersFit (before : List Char) : List Char → Bool
  | [] => true
  | c :: rest =>
    (!isJoiner c || (before.head?.any isVirama) ||
      (c.toNat == 0x200c && joinsAfter before && joinsBefore rest)) &&
    joinersFit (c :: before) rest

/-! ## Direction -/

/-- The characters of texts from right to left. -/
def isRightToLeft (c : Char) : Bool :=
  direction c == .right || direction c == .arabic || direction c == .arabicNumber

private def endsIn (classes : List Direction) (label : List Char) : Bool :=
  match label.reverse.find? fun c ↦ direction c != .mark with
  | some c => classes.contains (direction c)
  | none => false

/-- A label displays in one piece beside labels of the other direction. -/
def displays (label : List Char) : Bool :=
  match label with
  | [] => true
  | first :: _ =>
    match direction first with
    | .right | .arabic =>
      label.all (direction · != .left) &&
        endsIn [.right, .arabic, .europeanNumber, .arabicNumber] label &&
        !(label.any (direction · == .europeanNumber) && label.any (direction · == .arabicNumber))
    | .left => !label.any isRightToLeft && endsIn [.left, .europeanNumber] label
    | _ => false

/-! ## Labels -/

/-- A label in ASCII. -/
def isAscii (label : List Char) : Bool := label.all (·.toNat < 128)

/-- A label whose first character is a mark belongs to no character before it. -/
def startsWithMark (label : List Char) : Bool :=
  match label with
  | [] => false
  | c :: _ => Unicode.Category.Group.mark.set.contains c

/-- A label of characters that keep, in composed form, with joiners in place. -/
def isValid (label : List Char) : Bool :=
  label.all isKept && Unicode.composed label == label && !startsWithMark label &&
    joinersFit [] label

/-- The characters of a label, read from Punycode if it has the mark. -/
def readLabel (label : List Char) : Option (List Char) :=
  if mark.isPrefixOf label then do
    let text ← Punycode.decode? (label.drop mark.length)
    guard (!isAscii text)
    return text
  else some label

/-- A label in ASCII, or in Punycode with the mark. -/
def writeLabel (label : List Char) : List Char :=
  if isAscii label then label else mark ++ Punycode.encode label

/-- The characters that separate the parts of an address, which no domain has; neither has it
controls and blanks. -/
def isForbidden (c : Char) : Bool :=
  c.toNat ≤ 32 || c.toNat == 127 || "%#/:<>?@[\\]^|".toList.contains c

/-- A domain name in ASCII. -/
def toAscii? (domain : List Char) : Option (List Char) := do
  let labels := Text.splitOnAll (· == '.') (Unicode.composed (← mapped? domain))
  let texts ← labels.mapM readLabel
  guard (texts.all isValid)
  guard (!(texts.any (·.any isRightToLeft)) || texts.all displays)
  let name := ['.'].intercalate (texts.map writeLabel)
  guard (!name.any isForbidden)
  return name

end ProxySettings.Idna
