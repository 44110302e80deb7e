import FilterQuery.Filter.Basic
import FilterQuery.Lexeme.Classes

/-!
# The text of a filter

A filter is written with as few parentheses as its shape allows: an operand is parenthesized when
it binds more weakly than its connective, and on the right also when it binds as strongly, because
chains group to the left.

* `Filter.render`: the text of a filter.
* `Filter.chars_ne_nil`: no filter has an empty text.
-/

namespace FilterQuery.Filter

/-- How tightly a filter holds together; leaves are the tightest. -/
def binding : Filter → Nat
  | binary _ connective _ => connective.binding
  | _ => 3

/-- Whether `operand` would be torn apart if it stood without parentheses to the left of
`connective`. -/
def parenthesizedLeft (connective : Connective) (operand : Filter) : Bool :=
  operand.binding < connective.binding

/-- Whether `operand` would be torn apart if it stood without parentheses to the right of
`connective`. -/
def parenthesizedRight (connective : Connective) (operand : Filter) : Bool :=
  operand.binding ≤ connective.binding

/-- A text, with parentheses around it if asked for. -/
def enclose (parenthesized : Bool) (text : List Char) : List Char :=
  if parenthesized then ['('] ++ text ++ [')'] else text

/-- A value, between quotes unless it can stand without them. -/
def valueChars (value : String) : List Char :=
  if isBare value then value.toList else [quoteMark] ++ value.toList ++ [quoteMark]

/-- The characters of the text of a filter. -/
def chars : Filter → List Char
  | pair key value => key.name.toList ++ [':'] ++ valueChars value
  | tag polarity name => polarity.sign :: name.toList
  | binary left connective right =>
    enclose (parenthesizedLeft connective left) left.chars
      ++ ([' '] ++ connective.word.toList ++ [' '])
      ++ enclose (parenthesizedRight connective right) right.chars

/-- The text of a filter. -/
def render (filter : Filter) : String :=
  String.ofList filter.chars

instance : ToString Filter := ⟨render⟩

@[simp]
theorem toList_render (filter : Filter) : filter.render.toList = filter.chars := by
  simp [render]

theorem chars_ne_nil (filter : Filter) : filter.chars ≠ [] := by
  cases filter <;> simp [chars]

end FilterQuery.Filter
