/-!
# Settings

The limits within which filters are read, and whether misspelled keys are reported.

* `defaultMaxDepth`: the depth limit that holds when no other is set.
-/

namespace FilterQuery

/-- The depth limit that holds when no other is set. -/
def defaultMaxDepth : Nat := 64

/-- How filters are read. A value built from no fields holds the defaults. -/
structure Settings where
  /-- How deeply parentheses may be nested. -/
  maxDepth : Nat := defaultMaxDepth
  /-- How many bytes a text may have; there is no limit if this is not set. -/
  maxLength : Option Nat := none
  /-- Whether a key that looks like a misspelled reserved key is reported. -/
  suggestKeys : Bool := true
  deriving DecidableEq, Repr, Inhabited

namespace Settings

/-- The settings with another depth limit. -/
def withMaxDepth (settings : Settings) (limit : Nat) : Settings :=
  { settings with maxDepth := limit }

/-- The settings with a length limit. -/
def withMaxLength (settings : Settings) (limit : Nat) : Settings :=
  { settings with maxLength := some limit }

/-- The limit that a text of `length` bytes exceeds, if it does. -/
def exceededLimit (settings : Settings) (length : Nat) : Option Nat :=
  settings.maxLength.filter (· < length)

end Settings

end FilterQuery
