import ProxySettings.Proofs.ExclusiveChoice
import ProxySettings.Proofs.LoadedStore
import ProxySettings.Proofs.VariableNames
import ProxySettings.Settings.Load

/-!
# Settings from several sources

Settings are loaded from sources that lie in layers. Every setting for itself has the value of the
highest source that gives it one: what lower sources say about it does not count, be it of a wrong
type, and what a source says about other names does not count either. A file that does not follow
its format spoils the whole.
-/

namespace ProxySettings

/-! ## Values for all fields -/

namespace Settings

/-- Settings are built from values exactly if every field has one. -/
theorem ofFields?_eq_some_iff {value : (f : Field) → Option f.kind.Value} {s : Settings} :
    ofFields? value = some s ↔ ∀ f, value f = some (s.get f) := by
  constructor
  · intro h
    rw [ofFields?] at h
    iterate 24 obtain ⟨_, _, h⟩ := Option.bind_eq_some_iff.mp h
    obtain rfl := Option.some.inj h
    intro f
    cases f <;> assumption
  · intro h
    rw [funext h]
    exact ofFields?_get s

end Settings

/-! ## Sources -/

/-- Where settings come from: a file in a format, which may be missing, or variables. -/
inductive Source where
  | file (format : FileFormat) (found : Option (List UInt8))
  | environment (values : List (String × String))

namespace Source

/-- A file is there, and it is no text that follows its format. -/
def IsMalformed : Source → Prop
  | file format (some bytes) => (Utf8.decode? bytes).bind format.layer? = none
  | file _ none => False
  | environment _ => False

/-- A source gives a value to a field: a file by the field's name, and a variable by its own name.
-/
inductive Gives (f : Field) : Source → Datum → Prop
  | file {format : FileFormat} {bytes : List UInt8} {layer : Layer} {datum : Datum}
    (hlayer : (Utf8.decode? bytes).bind format.layer? = some layer)
    (hdatum : layer.get? f.name = some datum) : Gives f (.file format (some bytes)) datum
  | environment {values : List (String × String)} {name value : String}
    (hmem : (name, value) ∈ values) (hname : Variable.Names name f.name) :
    Gives f (.environment values) (Variable.datum value)

/-- The layer of a source; a missing file has an empty one. -/
def layer : Source → Except ConfigError Layer
  | file format (some bytes) => Settings.fileLayer format bytes
  | file _ none => .ok []
  | environment values => .ok (Variable.layer values)

/-- A layer has for every field what a source gives to it. -/
def Holds (source : Source) (layer : Layer) : Prop :=
  ∀ f datum, source.Gives f datum ↔ layer.get? f.name = some datum

end Source

/-! ## Loading -/

namespace Settings

end Settings

end ProxySettings
