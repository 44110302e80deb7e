/-!
# Edit distance

The number of single-character insertions, deletions and substitutions that turn one text into
another, computed row by row: the row of `source` against `target` lists the distances from
`source` to `target` and to each of its shorter ends.

* `length_distanceRow`: a row has one entry for each end of the target.
-/

namespace FilterQuery.Text

/-- The distances from the empty text to `target` and to each of its ends. -/
def emptyRow : List Char → List Nat
  | [] => [0]
  | _ :: target => (target.length + 1) :: emptyRow target

/-- The row for a source that starts with `c`, from the row of the source without `c`. -/
def extendRow (c : Char) : List Char → List Nat → List Nat
  | d :: target, deleted :: kept :: row =>
    let rest := extendRow c target (kept :: row)
    let substituted := if c = d then kept else kept + 1
    min (min (deleted + 1) (rest.headD 0 + 1)) substituted :: rest
  | _, row => row.map (· + 1)

/-- The distances from `source` to `target` and to each of its ends. -/
def distanceRow (source target : List Char) : List Nat :=
  source.foldr (fun c row => extendRow c target row) (emptyRow target)

/-- The least number of insertions, deletions and substitutions of single characters that turn
`source` into `target`. -/
def editDistance (source target : List Char) : Nat :=
  (distanceRow source target).headD 0

theorem length_emptyRow (target : List Char) : (emptyRow target).length = target.length + 1 := by
  induction target with
  | nil => rfl
  | cons _ target ih => simp [emptyRow, ih]

theorem length_extendRow (c : Char) (target : List Char) (row : List Nat) :
    (extendRow c target row).length = row.length := by
  fun_induction extendRow c target row with
  | case1 d target deleted kept row rest substituted ih => simpa using ih
  | case2 => simp

theorem length_distanceRow (source target : List Char) :
    (distanceRow source target).length = target.length + 1 := by
  induction source with
  | nil => exact length_emptyRow target
  | cons c source ih =>
    rw [distanceRow, List.foldr_cons, length_extendRow]
    exact ih

end FilterQuery.Text
