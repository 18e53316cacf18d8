import ProxySettings.Unicode.Age
import ProxySettings.Unicode.Property
import ProxySettings.Unicode.Script

/-!
# Sets of characters by name

Categories, groups of categories, properties, scripts and ages are found by name. Names are compared
loosely: case, blanks, underscores and hyphens do not count, and neither does a leading "is".
-/

namespace ProxySettings.Unicode

private def isNamePart (c : Char) : Bool :=
  c.toNat < 128 && c != ' ' && c != '_' && c != '-'

/-- The loose form of a name. The name `isc` is an abbreviation of its own and keeps its "is". -/
def looseName (name : List Char) : List Char :=
  let loose cs := (cs.filter isNamePart).map Char.toLower
  match name with
  | i :: s :: rest =>
    if i.toLower = 'i' ∧ s.toLower = 's' then
      if loose rest = ['c'] then ['i', 's', 'c'] else loose rest
    else loose name
  | _ => loose name

private def named (loose : List Char) (names : List String) : Bool :=
  names.any fun n ↦ looseName n.toList == loose

private def categoryNames : List (List String × Category) := [
  (["Lu", "Uppercase_Letter"], .uppercaseLetter),
  (["Ll", "Lowercase_Letter"], .lowercaseLetter),
  (["Lt", "Titlecase_Letter"], .titlecaseLetter),
  (["Lm", "Modifier_Letter"], .modifierLetter),
  (["Lo", "Other_Letter"], .otherLetter),
  (["Mn", "Nonspacing_Mark"], .nonspacingMark),
  (["Mc", "Spacing_Mark"], .spacingMark),
  (["Me", "Enclosing_Mark"], .enclosingMark),
  (["Nd", "Decimal_Number", "digit"], .decimalNumber),
  (["Nl", "Letter_Number"], .letterNumber),
  (["No", "Other_Number"], .otherNumber),
  (["Pc", "Connector_Punctuation"], .connectorPunctuation),
  (["Pd", "Dash_Punctuation"], .dashPunctuation),
  (["Ps", "Open_Punctuation"], .openPunctuation),
  (["Pe", "Close_Punctuation"], .closePunctuation),
  (["Pi", "Initial_Punctuation"], .initialPunctuation),
  (["Pf", "Final_Punctuation"], .finalPunctuation),
  (["Po", "Other_Punctuation"], .otherPunctuation),
  (["Sm", "Math_Symbol"], .mathSymbol),
  (["Sc", "Currency_Symbol"], .currencySymbol),
  (["Sk", "Modifier_Symbol"], .modifierSymbol),
  (["So", "Other_Symbol"], .otherSymbol),
  (["Zs", "Space_Separator"], .spaceSeparator),
  (["Zl", "Line_Separator"], .lineSeparator),
  (["Zp", "Paragraph_Separator"], .paragraphSeparator),
  (["Cc", "Control", "cntrl"], .control),
  (["Cf", "Format"], .format),
  (["Co", "Private_Use"], .privateUse),
  (["Cn", "Unassigned"], .unassigned)]

private def groupNames : List (List String × Category.Group) := [
  (["L", "Letter"], .letter),
  (["LC", "Cased_Letter"], .casedLetter),
  (["M", "Mark", "Combining_Mark"], .mark),
  (["N", "Number"], .number),
  (["P", "Punctuation", "punct"], .punctuation),
  (["S", "Symbol"], .symbol),
  (["Z", "Separator"], .separator),
  (["C", "Other"], .other)]

/-- The characters of the category or group of a loose name; `any`, `assigned` and `ascii` count as
groups. -/
def categorySet? (loose : List Char) : Option CharSet :=
  if loose == "any".toList then some .all
  else if loose == "assigned".toList then some (.compl Category.unassigned.set)
  else if loose == "ascii".toList then some (.runs [Run.between 0 127])
  else
    match categoryNames.find? fun row ↦ named loose row.1 with
    | some row => some row.2.set
    | none => (groupNames.find? fun row ↦ named loose row.1).map (·.2.set)

/-- The characters of the property of a loose name. -/
def propertySet? (loose : List Char) : Option CharSet :=
  (Property.all.find? fun row ↦ named loose row.1).map (·.2)

/-- The script of a loose name. -/
def script? (loose : List Char) : Option Script :=
  Script.all.find? fun s ↦ named loose s.names

private def ageSet? (loose : List Char) : Option CharSet :=
  let digits (version : String) := version.toList.filter Text.isDigit
  match ages.find? fun a ↦ a.1.toList == loose || 'v' :: digits a.1 == loose with
  | some a => assignedBy a.1
  | none => none

/-- The characters named by a single name: a property, else a category, else a script. The names
`cf`, `sc` and `lc` abbreviate categories only. -/
def namedSet? (name : List Char) : Option CharSet :=
  let loose := looseName name
  let property :=
    if ["cf", "sc", "lc"].any (·.toList == loose) then none else propertySet? loose
  property <|> categorySet? loose <|> (script? loose).map Script.set

/-- The characters for which a named attribute has a named value: the category, the script, the
extended script, or the age. -/
def valuedSet? (key value : List Char) : Option CharSet :=
  let loose := looseName key
  let value := looseName value
  if named loose ["gc", "General_Category"] then categorySet? value
  else if named loose ["sc", "Script"] then (script? value).map Script.set
  else if named loose ["scx", "Script_Extensions"] then (script? value).map Script.extendedSet
  else if named loose ["Age"] then ageSet? value
  else none

end ProxySettings.Unicode
