import FilterQuery.Key.Vocabulary
import FilterQuery.Text.EditDistance
import FilterQuery.Text.Lowercase

/-!
# Suggestions for misspelled keys

A name that is close to a reserved key is probably a slip. Closeness is the edit distance from the
name's lower case, and short names tolerate fewer edits.

* `suggestedKey`: the closest reserved key, if it is close enough.
* `mem_builtInKeys_of_suggestedKey`: only reserved keys are suggested, and only for other names.
-/

namespace FilterQuery

open Text

/-- The number of edits that `name` tolerates: one for every three characters, two at most. -/
def toleratedEdits (name : String) : Nat :=
  min 2 (name.toList.length / 3)

/-- The reserved keys, each with its distance from the lower case of `name`. -/
def keyDistances (name : String) : List (String × Nat) :=
  let lower := lowercase name.toList
  builtInKeys.map fun key => (key, editDistance lower key.toList)

/-- The reserved key closest to `name`, the first of several equally close ones. There is none if
`name` is reserved itself or if the closest key is too far away. -/
def suggestedKey (name : String) : Option String :=
  if isBuiltInKey name then
    none
  else
    match (keyDistances name).minOn? Prod.snd with
    | some (key, distance) => if distance ≤ toleratedEdits name then some key else none
    | none => none

theorem mem_builtInKeys_of_suggestedKey {name key : String} (h : suggestedKey name = some key) :
    key ∈ builtInKeys ∧ name ∉ builtInKeys := by
  unfold suggestedKey at h
  split at h
  · simp at h
  · next hname =>
    split at h
    · next key' distance hmin =>
      split at h
      · obtain rfl := Option.some.inj h
        have hmem := List.minOn?_mem hmin
        simp only [keyDistances, List.mem_map, Prod.mk.injEq] at hmem
        obtain ⟨k, hk, rfl, _⟩ := hmem
        exact ⟨hk, fun hn => hname (isBuiltInKey_iff.2 hn)⟩
      · simp at h
    · simp at h

end FilterQuery
