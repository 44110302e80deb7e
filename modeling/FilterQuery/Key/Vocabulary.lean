/-!
# The reserved attribute keys

The filter language reserves a few attribute keys. Their order decides which of two equally close
keys is suggested for a misspelled one.

* `builtInKey?`: the reserved key that a name is. `isBuiltInKey`: whether it is one.
* `builtInKey?_eq_some_iff`: the key that is found is the name, letter by letter.
* `nodup_builtInKeys`: no reserved key is listed twice.
-/

namespace FilterQuery

/-- The reserved attribute keys, in the order in which they are suggested. -/
def builtInKeys : List String :=
  ["due", "until", "project", "end", "entry", "estimate", "id", "modified", "parent", "priority",
    "recur", "scheduled", "start", "status", "wait"]

/-- The reserved key that agrees with `name` letter by letter. -/
def builtInKey? (name : String) : Option String :=
  builtInKeys.find? (· == name)

/-- Whether `name` is a reserved key. -/
def isBuiltInKey (name : String) : Bool :=
  (builtInKey? name).isSome

theorem builtInKey?_eq_some_iff {name key : String} :
    builtInKey? name = some key ↔ key = name ∧ name ∈ builtInKeys := by
  constructor
  · intro h
    obtain rfl : key = name := by simpa using List.find?_some h
    exact ⟨rfl, List.mem_of_find?_eq_some h⟩
  · rintro ⟨rfl, hmem⟩
    obtain ⟨found, hfound⟩ : ∃ found, builtInKey? key = some found :=
      Option.isSome_iff_exists.mp (List.find?_isSome.mpr ⟨key, hmem, beq_self_eq_true key⟩)
    have heq : found = key := by simpa using List.find?_some hfound
    rw [hfound, heq]

theorem isBuiltInKey_iff {name : String} : isBuiltInKey name = true ↔ name ∈ builtInKeys := by
  rw [isBuiltInKey, Option.isSome_iff_exists]
  simp [builtInKey?_eq_some_iff]

theorem nodup_builtInKeys : builtInKeys.Nodup := by
  decide

end FilterQuery
