import FilterQuery.Reader.Parse

/-!
# A workbench for filters

Filters are put together on a stack: leaves and parsed texts are put on top, and connectives join
the two topmost filters.

* `Workbench.step`: one piece of work. Work that cannot be done leaves the stack as it is, and
  tells why.
-/

namespace FilterQuery

/-- A piece of work. -/
inductive Task where
  /-- Put an attribute pair on top. -/
  | pair (name value : String)
  /-- Put a tag on top. -/
  | tag (polarity : Polarity) (name : String)
  /-- Put the filter that a text is on top. -/
  | parse (input : String)
  /-- Join the two topmost filters; the topmost one becomes the right operand. -/
  | join (connective : Connective)
  /-- Put the topmost filter on top once more. -/
  | duplicate
  /-- Exchange the two topmost filters. -/
  | swap
  /-- Take the topmost filter away. -/
  | drop
  /-- Replace the topmost filter by its left operand. -/
  | left
  /-- Replace the topmost filter by its right operand. -/
  | right
  deriving DecidableEq, Repr, Inhabited

/-- Why a piece of work cannot be done. -/
inductive Obstacle where
  /-- The text is not a filter. -/
  | malformed (error : SyntaxError)
  /-- The topmost filter has no operands. -/
  | notBinary
  /-- There are too few filters on the stack. -/
  | tooFew
  deriving DecidableEq, Repr, Inhabited

/-- The filters on the stack, the topmost one first. -/
abbrev Workbench := List Filter

namespace Workbench

/-- The stack after a piece of work. -/
def step : Workbench → Task → Except Obstacle Workbench
  | stack, .pair name value => .ok (.ofPair name value :: stack)
  | stack, .tag polarity name => .ok (.tag polarity name :: stack)
  | stack, .parse input =>
    match Filter.parse input with
    | .ok filter => .ok (filter :: stack)
    | .error error => .error (.malformed error)
  | right :: left :: stack, .join connective => .ok (.binary left connective right :: stack)
  | top :: stack, .duplicate => .ok (top :: top :: stack)
  | top :: second :: stack, .swap => .ok (second :: top :: stack)
  | _ :: stack, .drop => .ok stack
  | .binary left _ _ :: stack, .left => .ok (left :: stack)
  | .binary _ _ right :: stack, .right => .ok (right :: stack)
  | _ :: _, .left => .error .notBinary
  | _ :: _, .right => .error .notBinary
  | _, _ => .error .tooFew

/-- What each of several pieces of work left or met, and the stack after all of them. -/
def run (stack : Workbench) : List Task → List (Except Obstacle Workbench) × Workbench
  | [] => ([], stack)
  | task :: tasks =>
    let result := step stack task
    let (results, final) := run (result.toOption.getD stack) tasks
    (result :: results, final)

end Workbench

end FilterQuery
