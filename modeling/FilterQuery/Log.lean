import FilterQuery.Filter.Basic
import FilterQuery.SyntaxError.Basic
import FilterQuery.Text.Quoted

/-!
# The log

Reading a filter leaves a log: a record for every leaf that was read, a report of every key that
looks misspelled, and a record of the failure if reading failed.

* `Record.level`, `Record.text`: how a record is shown.
* `Record.leaf?`: the leaf that a record is about.
-/

namespace FilterQuery

open Text

/-- How much a record matters. -/
inductive Level where
  /-- Of interest when looking for a mistake. -/
  | debug
  /-- Of interest only when following every step. -/
  | trace
  deriving DecidableEq, Repr, Inhabited

/-- An entry of the log. -/
inductive Record where
  /-- An attribute pair was read. -/
  | pair (key : Key) (value : String)
  /-- A tag was read. -/
  | tag (polarity : Polarity) (name : String)
  /-- The user-defined key `name` looks like the reserved key `suggestion`. -/
  | misspelling (name suggestion : String)
  /-- Reading `input` failed. -/
  | failure (input : String) (error : SyntaxError)
  deriving DecidableEq, Repr, Inhabited

/-- A log, the earliest record first. -/
abbrev Log := List Record

/-- A key with its class, as a record shows it. -/
def Key.classified : Key → String
  | .builtIn name => "BuiltIn(" ++ quoted name ++ ")"
  | .userDefined name => "UserDefined(" ++ quoted name ++ ")"

/-- A polarity, as a record shows it. -/
def Polarity.label : Polarity → String
  | .includes => "Include"
  | .excludes => "Exclude"

namespace Record

/-- The level of a record. -/
def level : Record → Level
  | pair _ _ => .trace
  | tag _ _ => .trace
  | misspelling _ _ => .debug
  | failure _ _ => .debug

/-- The text of a record. -/
def text : Record → String
  | pair key value => "parsed attribute pair " ++ key.classified ++ " = " ++ quoted value
  | tag polarity name => "parsed tag " ++ polarity.label ++ " " ++ quoted name
  | misspelling name suggestion =>
    "user-defined key '" ++ name ++ "' looks like built-in key '" ++ suggestion ++ "'"
  | failure input error => "failed to parse filter " ++ quoted input ++ ": " ++ error.message

/-- The leaf that was read, if the record tells of one. -/
def leaf? : Record → Option Filter
  | pair key value => some (.pair key value)
  | tag polarity name => some (.tag polarity name)
  | misspelling _ _ => none
  | failure _ _ => none

/-- Whether the record reports a misspelled key. -/
def isMisspelling : Record → Bool
  | misspelling _ _ => true
  | _ => false

end Record

end FilterQuery
