/-!
# TOML values

The values of a TOML document (version 1.0). Only what settings need is decoded: a floating-point
number and a moment in time are kept as they are written.
-/

namespace FilterQuery

/-- A TOML value. -/
inductive Toml where
  /-- A text. -/
  | string (value : String)
  /-- A whole number. -/
  | integer (value : Int)
  /-- A floating-point number, as it is written. -/
  | float (literal : String)
  /-- A truth value. -/
  | boolean (value : Bool)
  /-- A date, a time or both, as they are written. -/
  | moment (literal : String)
  /-- An array. -/
  | array (items : List Toml)
  /-- A table between braces: its assignments, each to a dotted key. -/
  | inlineTable (entries : List (List String × Toml))
  deriving Repr, Inhabited

namespace Toml

/-- The natural number that the value is. -/
def nat? : Toml → Option Nat
  | integer value => if 0 ≤ value then some value.toNat else none
  | _ => none

/-- The truth value that the value is. -/
def bool? : Toml → Option Bool
  | boolean value => some value
  | _ => none

end Toml

end FilterQuery
