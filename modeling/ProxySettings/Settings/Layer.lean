import ProxySettings.Json.Basic

/-!
# Layers of settings

Settings come from several places: files of several formats and environment variables. Each place
gives a layer, that is names with values. Layers are put one after the other, and the last value of
a name counts. In the proxy `load_from_env_or_file` merges them.
-/

namespace ProxySettings

/-- A value of a layer. Fractions, records, dates and whatever else no setting takes are not told
apart. -/
inductive Datum where
  | null
  | bool (b : Bool)
  | integer (n : Int)
  | text (s : String)
  | list (items : List Datum)
  | other
  deriving Repr

/-- Names with values, in the order in which they were given. -/
abbrev Layer := List (String × Datum)

namespace Layer

/-- The last value of a name. -/
def get? (layer : Layer) (name : String) : Option Datum := layer.reverse.lookup name

end Layer

mutual

/-- The value of a layer that a JSON value stands for. -/
def Json.datum : Json → Datum
  | .null => .null
  | .bool b => .bool b
  | .number n =>
    match n.int? with
    | some i => .integer i
    | none => .other
  | .string (some s) => .text s
  | .string none => .other
  | .array items => .list (data items)
  | .object _ => .other

/-- The values of a layer that the items of an array stand for. -/
def Json.data : List Json → List Datum
  | [] => []
  | item :: items => item.datum :: data items

end

end ProxySettings
