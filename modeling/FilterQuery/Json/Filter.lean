import FilterQuery.Filter.Basic
import FilterQuery.Json.Value

/-!
# Filters as JSON values

Every node of a filter is a record with its type. A node that is read may also be an array of its
type and its fields in order, and members that no node uses are passed over. Keys keep the class
they are stored with.

* `Filter.toJson`, `Key.toJson`: the stored form.
* `Filter.ofJson`, `Key.ofJson`: what a stored form stands for, if it stands for anything.
-/

namespace FilterQuery

/-! ## Writing -/

/-- A connective as a JSON value. -/
def Connective.toJson (connective : Connective) : Json :=
  .string connective.word

/-- The stored name of a polarity. -/
def Polarity.word : Polarity → String
  | .includes => "include"
  | .excludes => "exclude"

/-- A polarity as a JSON value. -/
def Polarity.toJson (polarity : Polarity) : Json :=
  .string polarity.word

/-- The stored name of the class of a key. -/
def Key.kindWord : Key → String
  | .builtIn _ => "built_in"
  | .userDefined _ => "user_defined"

/-- A key as a JSON value. -/
def Key.toJson (key : Key) : Json :=
  .object [("kind", .string key.kindWord), ("name", .string key.name)]

/-- A filter as a JSON value. -/
def Filter.toJson : Filter → Json
  | .pair key value =>
    .object [("type", .string "attribute_pair"), ("key", key.toJson), ("value", .string value)]
  | .tag polarity name =>
    .object [("type", .string "tag"), ("modifier", polarity.toJson), ("value", .string name)]
  | .binary left connective right =>
    .object [("type", .string "binary_filter"), ("left", left.toJson),
      ("operator", connective.toJson), ("right", right.toJson)]

/-! ## Reading -/

/-- The connective that a JSON value stands for. -/
def Connective.ofJson (place : Json.Place) (value : Json) : Option Connective :=
  match value.variant? place with
  | some "and" => some .and
  | some "or" => some .or
  | _ => none

/-- The polarity that a JSON value stands for. -/
def Polarity.ofJson (place : Json.Place) (value : Json) : Option Polarity :=
  match value.variant? place with
  | some "include" => some .includes
  | some "exclude" => some .excludes
  | _ => none

/-- The stored names of the classes of keys. -/
def Key.kindWords : List String :=
  ["built_in", "user_defined"]

/-- The key of the class with the given stored name. -/
def Key.ofKindWord (word name : String) : Option Key :=
  match word with
  | "built_in" => some (.builtIn name)
  | "user_defined" => some (.userDefined name)
  | _ => none

/-- The key that a JSON value stands for: an object, or an array of the class and the name. Only
the members of an object may give the class an empty payload, and only the items of an array may
give it by its number. -/
def Key.ofJson (place : Json.Place) : Json → Option Key
  | .object members => do
    let word ← (← members.lookup "kind").variant? place
    ofKindWord word (← (← members.lookup "name").string?)
  | .array [kind, name] => do
    ofKindWord (← kind.label? kindWords place) (← name.string?)
  | _ => none

/-- The types of node. -/
inductive NodeType where
  /-- An attribute pair. -/
  | pair
  /-- A tag. -/
  | tag
  /-- Two filters, joined. -/
  | binary
  deriving DecidableEq, Repr, Inhabited

namespace NodeType

/-- The names of the fields of a node, in the order in which an array lists them. -/
def fieldNames : NodeType → List String
  | pair => ["key", "value"]
  | tag => ["modifier", "value"]
  | binary => ["left", "operator", "right"]

/-- The stored names of the types. -/
def words : List String :=
  ["attribute_pair", "tag", "binary_filter"]

/-- The type that a JSON value stands for: its name or, inside of another filter, its number. -/
def ofJson (place : Json.Place) (value : Json) : Option NodeType :=
  match value.label? words place with
  | some "attribute_pair" => some pair
  | some "tag" => some tag
  | some "binary_filter" => some binary
  | _ => none

end NodeType

/-- The filter with the given type and fields. The filters that stand in the fields are given
beside them. -/
def Filter.ofFields (type : NodeType) (fields : List (String × Json))
    (filters : List (String × Option Filter)) : Option Filter :=
  match type with
  | .pair => do
    let key ← Key.ofJson .nested (← fields.lookup "key")
    let value ← (← fields.lookup "value").string?
    return .pair key value
  | .tag => do
    let polarity ← Polarity.ofJson .nested (← fields.lookup "modifier")
    let name ← (← fields.lookup "value").string?
    return .tag polarity name
  | .binary => do
    let left ← (← filters.lookup "left")
    let connective ← Connective.ofJson .nested (← fields.lookup "operator")
    let right ← (← filters.lookup "right")
    return .binary left connective right

mutual

/-- The filter that a JSON value stands for. -/
def Filter.ofJson (place : Json.Place) : Json → Option Filter
  | .object members => do
    let type ← NodeType.ofJson place (← members.lookup "type")
    ofFields type members (ofMembers members)
  | .array (type :: items) => do
    let type ← NodeType.ofJson place type
    if items.length = type.fieldNames.length then
      ofFields type (type.fieldNames.zip items) (type.fieldNames.zip (ofItems items))
    else
      none
  | _ => none

/-- The filters that the members of an object stand for. -/
def Filter.ofMembers : List (String × Json) → List (String × Option Filter)
  | [] => []
  | (name, value) :: members => (name, ofJson .nested value) :: ofMembers members

/-- The filters that the items of an array stand for. -/
def Filter.ofItems : List Json → List (Option Filter)
  | [] => []
  | value :: items => ofJson .nested value :: ofItems items

end

theorem Filter.ofMembers_eq_map (members : List (String × Json)) :
    ofMembers members = members.map fun m => (m.1, ofJson .nested m.2) := by
  induction members with
  | nil => rfl
  | cons m members ih => rw [ofMembers, ih, List.map_cons]

theorem Filter.ofItems_eq_map (items : List Json) :
    ofItems items = items.map (ofJson .nested) := by
  induction items with
  | nil => rfl
  | cons value items ih => rw [ofItems, ih, List.map_cons]

end FilterQuery
