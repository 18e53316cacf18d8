import ProxySettings.Proofs.Splitting
import ProxySettings.Settings.Field
import ProxySettings.Settings.Variables

/-!
# The settings that variables name

A variable sets the setting that its name names. Where no name has parts and no two variables name
one setting, the layer of the variables gives a setting what its variable says, in whatever order
the variables stand.
-/

namespace ProxySettings

namespace Variable

/-- A name has a rest behind the fixed beginning, which may be in any case. -/
def HasRest (name rest : String) : Prop :=
  ∃ word, name = word ++ rest ∧ Text.asciiLower word = "mitmproxy_"

/-- A name names a setting: the rest of the name is the setting's name, up to case and blanks around
it. -/
def Names (name key : String) : Prop :=
  ∃ rest, HasRest name rest ∧ Text.asciiLower (Text.trim rest) = key

end Variable

end ProxySettings
