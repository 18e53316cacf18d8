import ProxySettings.Json.Basic

/-!
# Limits on JSON values

A value that is kept, and not only passed over, has to be one that can be kept: its numbers are not
too large for a floating point number of 64 bits, its strings denote texts, and it is not nested too
deeply. In the proxy `load_from_path` keeps such values.
-/

namespace ProxySettings.Json

/-- The number of arrays and objects that may be nested. -/
def maxDepth : Nat := 127

mutual

/-- The value can be kept, with at most `depth` arrays and objects in each other. -/
def isStrict (depth : Nat) : Json → Bool
  | null => true
  | bool _ => true
  | number n => n.toDecimal.isFinite
  | string s => s.isSome
  | array items => 0 < depth && areStrict (depth - 1) items
  | object members => 0 < depth && membersAreStrict (depth - 1) members

/-- All items can be kept. -/
def areStrict (depth : Nat) : List Json → Bool
  | [] => true
  | item :: items => item.isStrict depth && areStrict depth items

/-- All members can be kept. -/
def membersAreStrict (depth : Nat) : List (Option String × Json) → Bool
  | [] => true
  | (name, v) :: members => name.isSome && v.isStrict depth && membersAreStrict depth members

end

end ProxySettings.Json
