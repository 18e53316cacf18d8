import ProxySettings.Settings.Layer

/-!
# Tables in TOML

A document is a table of values and further tables. No value and no table is defined twice: a key
with dots passes only through tables that no header has defined, and a header defines a table only
if nothing has defined it. A header with two brackets adds a table to a list of tables.
-/

namespace ProxySettings.Toml

/-- How a table came to be: by its header or braces, on the way to a header's table, or on the way
to the value of a key with dots. -/
inductive Origin where
  | defined
  | passed
  | dotted
  deriving Repr, DecidableEq

/-- What a key has: a value, a table with its items, or a list of defined tables. -/
inductive Item where
  | value (datum : Datum)
  | table (origin : Origin) (items : List (String × Item))
  | tables (all : List (List (String × Item)))
  deriving Repr

/-- The items of a table by key, in order. -/
abbrev Items := List (String × Item)

namespace Items

/-- Give a key an item in place of the one it has. -/
def replace (items : Items) (key : String) (item : Item) : Items :=
  items.map fun row ↦ if row.1 = key then (key, item) else row

/-- Change the items of the table at a path. Tables that are missing on the way get the given
origin. A key with dots does not pass through a defined table; of a list of tables the last one is
meant. -/
def change (through : Origin) (f : Origin → Items → Option Items) (origin : Origin)
    (items : Items) : List String → Option Items
  | [] => f origin items
  | key :: path =>
    match items.lookup key with
    | none => do
      return items ++ [(key, .table through (← change through f through [] path))]
    | some (.value _) => none
    | some (.table origin sub) =>
      if through = .dotted ∧ origin = .defined then none
      else do return items.replace key (.table origin (← change through f origin sub path))
    | some (.tables all) => do
      let last ← all.getLast?
      return items.replace key (.tables (all.dropLast ++ [← change through f .defined last path]))

/-- Add the value of a key, whose dots lead through tables. -/
def addValue (items : Items) (path : List String) (key : String) (datum : Datum) : Option Items :=
  change .dotted
    (fun origin items ↦
      if origin = .dotted ↔ path = [] then none
      else if (items.lookup key).isSome then none
      else some (items ++ [(key, .value datum)]))
    .defined items path

/-- Define the table of a header. -/
def define (items : Items) (path : List String) (key : String) : Option Items :=
  change .passed
    (fun _ items ↦
      match items.lookup key with
      | none => some (items ++ [(key, .table .defined [])])
      | some (.table .passed sub) => some (items.replace key (.table .defined sub))
      | some _ => none)
    .defined items path

/-- Add a table to the list of tables of a header with two brackets. -/
def addTable (items : Items) (path : List String) (key : String) : Option Items :=
  change .passed
    (fun _ items ↦
      match items.lookup key with
      | none => some (items ++ [(key, .tables [[]])])
      | some (.tables all) => some (items.replace key (.tables (all ++ [[]])))
      | some _ => none)
    .defined items path

/-- Add the value of a key to the table of the last header. -/
def addValueBelow (items : Items) (header path : List String) (key : String) (datum : Datum) :
    Option Items :=
  change .passed (fun _ items ↦ items.addValue path key datum) .defined items header

/-- The items as a layer; no setting takes a table. -/
def layer (items : Items) : Layer :=
  items.map fun (key, item) ↦
    match item with
    | .value datum => (key, datum)
    | _ => (key, .other)

end Items

end ProxySettings.Toml
