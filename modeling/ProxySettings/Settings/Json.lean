import ProxySettings.Json.Printer
import ProxySettings.Json.Reader
import ProxySettings.Settings.Basic

/-!
# Settings in JSON

Settings are written as an object with all fields in order. They are read from an object, in which
fields may be missing, or from an array of the first fields' values. In the proxy `show_options`
writes them.
-/

namespace ProxySettings.Settings

/-- The settings as an object. -/
def toJson (s : Settings) : Json :=
  .record (Field.all.map fun f ↦ (f.name, f.kind.encode (s.get f)))

/-- The settings as a text over several lines (`show_options`). -/
def shown (s : Settings) : String := s.toJson.pretty

/-- The members of an object as a layer. A name that denotes no text has no value. -/
def layerOfMembers (members : List (Option String × Json)) : Layer :=
  members.filterMap fun (name, v) ↦ name.map fun name ↦ (name, v.datum)

/-- The settings of an object or an array; of repeated members the last one counts. -/
def ofJson? : Json → Option Settings
  | .object members => ofLayer? (layerOfMembers members)
  | .array items =>
    if items.length ≤ Field.all.length then
      ofLayer? ((Field.all.map Field.name).zip (Json.data items))
    else none
  | _ => none

/-- The names of an object are texts, and no field is named twice. -/
def isPlain : Json → Bool
  | .object members =>
    members.all (·.1.isSome) &&
      Field.all.all fun f ↦ (members.filter (·.1 == some f.name)).length ≤ 1
  | _ => true

/-- Read settings from a text; a repeated field is refused. -/
def ofText? (text : String) : Option Settings := do
  let v ← Json.read? text.toList
  if isPlain v then ofJson? v else none

end ProxySettings.Settings
