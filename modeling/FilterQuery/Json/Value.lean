/-!
# JSON values

The values in which filters and settings are exchanged with other programs, and how they name one
of several cases.

* `Json.variant?`: the name of a case without fields, alone or with an empty payload.
* `Json.label?`: the name of a case that stands beside its fields, or its number.
-/

namespace FilterQuery

/-- A JSON value. The names of an object's members differ from each other. -/
inductive Json where
  /-- The value `null`. -/
  | null
  /-- A truth value. -/
  | bool (value : Bool)
  /-- A number written without fraction and exponent. -/
  | integer (value : Int)
  /-- Any other number, as it is written. -/
  | decimal (literal : String)
  /-- A text. -/
  | string (value : String)
  /-- An array. -/
  | array (items : List Json)
  /-- An object, with its members in the order in which they are written. -/
  | object (members : List (String × Json))
  deriving Repr, Inhabited

namespace Json

/-- Where a value stands: some spellings are only understood inside of another filter or key. -/
inductive Place where
  /-- The value is read for its own sake. -/
  | outermost
  /-- The value is part of another value. -/
  | nested
  deriving DecidableEq, Repr, Inhabited

/-- The text that the value is. -/
def string? : Json → Option String
  | string value => some value
  | _ => none

/-- The truth value that the value is. -/
def bool? : Json → Option Bool
  | bool value => some value
  | _ => none

/-- The natural number below `bound` that the value is. -/
def natBelow? (bound : Nat) : Json → Option Nat
  | integer value => if 0 ≤ value ∧ value < bound then some value.toNat else none
  | _ => none

/-- Whether a value is the payload of a case without fields. An empty object only counts inside of
another value. -/
def isUnit : Place → Json → Bool
  | _, null => true
  | .nested, object [] => true
  | _, _ => false

/-- The name of a case without fields, written alone or as the only member of an object. -/
def variant? (place : Place) : Json → Option String
  | string name => some name
  | object [(name, payload)] => if payload.isUnit place then some name else none
  | _ => none

/-- The name of one of several cases whose fields stand beside it: the name itself or, inside of
another value, its number among the `names` of the cases. -/
def label? (names : List String) : Place → Json → Option String
  | _, string name => some name
  | .nested, integer number => if 0 ≤ number then names[number.toNat]? else none
  | _, _ => none

end Json

end FilterQuery
