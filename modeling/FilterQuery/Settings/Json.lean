import FilterQuery.Json.Value
import FilterQuery.Settings.Basic

/-!
# Settings as JSON values

Settings are an object of which every member may be left out, or an array that lists the first few
of them. What is left out keeps its default.

* `Settings.toJson`: the stored form.
* `Settings.ofJson`: the settings that a stored form stands for.
-/

namespace FilterQuery.Settings

/-- The names of the settings in their stored form, in the order in which an array lists them. -/
def fieldNames : List String :=
  ["max_depth", "max_input_len", "suggest_builtin_keys"]

/-- Settings as a JSON value. A length limit that is not set is left out. -/
def toJson (settings : Settings) : Json :=
  .object <|
    [("max_depth", .integer settings.maxDepth)]
      ++ settings.maxLength.toList.map (fun limit => ("max_input_len", .integer limit))
      ++ [("suggest_builtin_keys", .bool settings.suggestKeys)]

/-- The numbers that settings can hold lie below this bound. -/
def numberBound : Nat := UInt64.size

/-- The value of a field that may be left out: its default, or what is read from the value. -/
def field {α : Type} (fields : List (String × Json)) (name : String) (default : α)
    (read : Json → Option α) : Option α :=
  match fields.lookup name with
  | some value => read value
  | none => some default

/-- The length limit that a JSON value stands for; `null` stands for no limit. -/
def maxLengthOfJson : Json → Option (Option Nat)
  | .null => some none
  | value => (value.natBelow? numberBound).map some

/-- The settings with the given fields. -/
def ofFields (fields : List (String × Json)) : Option Settings := do
  let defaults : Settings := {}
  let maxDepth ← field fields "max_depth" defaults.maxDepth (·.natBelow? numberBound)
  let maxLength ← field fields "max_input_len" defaults.maxLength maxLengthOfJson
  let suggestKeys ← field fields "suggest_builtin_keys" defaults.suggestKeys (·.bool?)
  return { maxDepth, maxLength, suggestKeys }

/-- The settings that a JSON value stands for. -/
def ofJson : Json → Option Settings
  | .object members => ofFields members
  | .array items =>
    if items.length ≤ fieldNames.length then ofFields (fieldNames.zip items) else none
  | _ => none

end FilterQuery.Settings
