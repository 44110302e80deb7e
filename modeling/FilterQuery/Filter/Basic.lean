import FilterQuery.Key.Basic

/-!
# Filters

A filter picks tasks. Its leaves ask for an attribute with a value, or for the presence or absence
of a tag; its inner nodes join two filters with `and` or `or`.

* `Polarity.ofSign?_eq_some_iff`: a sign names exactly one polarity.
* `Filter.ofPair`: the leaf for a key given by its name.
-/

namespace FilterQuery

/-- Whether a tag must be there or must not be there. -/
inductive Polarity where
  /-- The tag must be there, written `+name`. -/
  | includes
  /-- The tag must not be there, written `-name`. -/
  | excludes
  deriving DecidableEq, Repr, Inhabited

namespace Polarity

/-- The sign before the name of a tag. -/
def sign : Polarity → Char
  | includes => '+'
  | excludes => '-'

/-- The polarity that a sign stands for. -/
def ofSign? : Char → Option Polarity
  | '+' => some includes
  | '-' => some excludes
  | _ => none

theorem ofSign?_eq_some_iff {c : Char} {polarity : Polarity} :
    ofSign? c = some polarity ↔ c = polarity.sign := by
  constructor
  · intro h
    unfold ofSign? at h
    split at h <;> simp_all [sign] <;> subst h <;> rfl
  · rintro rfl
    cases polarity <;> rfl

end Polarity

/-- How two filters are joined. -/
inductive Connective where
  /-- Both filters must hold. -/
  | and
  /-- At least one of the filters must hold. -/
  | or
  deriving DecidableEq, Repr, Inhabited

namespace Connective

/-- The word that stands between two joined filters. -/
def word : Connective → String
  | and => "and"
  | or => "or"

/-- How tightly the connective binds; the higher number binds tighter. -/
def binding : Connective → Nat
  | or => 1
  | and => 2

end Connective

/-- A filter expression. -/
inductive Filter where
  /-- The attribute `key` has the given value. -/
  | pair (key : Key) (value : String)
  /-- The tag `name` is present or absent. -/
  | tag (polarity : Polarity) (name : String)
  /-- Two filters, joined. -/
  | binary (left : Filter) (connective : Connective) (right : Filter)
  deriving DecidableEq, Repr, Inhabited

namespace Filter

/-- The leaf that asks for a value of the key called `name`, classified by the vocabulary. -/
def ofPair (name value : String) : Filter :=
  pair (Key.ofName name) value

/-- The filter that asks for both of two filters. -/
def both (left right : Filter) : Filter :=
  binary left .and right

/-- The filter that asks for one of two filters. -/
def either (left right : Filter) : Filter :=
  binary left .or right

/-- The number of leaves and inner nodes. -/
def size : Filter → Nat
  | binary left _ right => left.size + right.size + 1
  | _ => 1

/-- The leaves from left to right. -/
def leaves : Filter → List Filter
  | binary left _ right => left.leaves ++ right.leaves
  | leaf => [leaf]

end Filter

end FilterQuery
