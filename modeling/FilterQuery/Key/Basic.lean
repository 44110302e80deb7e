import FilterQuery.Key.Suggestion

/-!
# Attribute keys

The key of an attribute pair is either reserved or defined by the user. A key is classified once,
when it is read or made from its name, and keeps its class from then on, also where a stored key
carries a class that its name would not get.

* `Key.ofName`: the key with a given name, classified by the vocabulary.
* `Key.ofRun`: the key that is read, which takes its text from the vocabulary if it is reserved.
  `Key.ofRun_eq_ofName`: it is the same key.
* `Key.isBuiltIn_ofName`: a key is made reserved exactly when its name is.
-/

namespace FilterQuery

/-- The key of an attribute pair. -/
inductive Key where
  /-- A reserved key. -/
  | builtIn (name : String)
  /-- Any other key. -/
  | userDefined (name : String)
  deriving DecidableEq, Repr, Inhabited

namespace Key

/-- The key called `name`, classified by the vocabulary. -/
def ofName (name : String) : Key :=
  if isBuiltInKey name then builtIn name else userDefined name

/-- The key that is read where the letters `run` stand: what the vocabulary has for them, or else a
user-defined key. -/
def ofRun (run : String) : Key :=
  match builtInKey? run with
  | some key => builtIn key
  | none => userDefined run

/-- The text of the key. -/
def name : Key → String
  | builtIn name => name
  | userDefined name => name

/-- Whether the key is classified as reserved. -/
def isBuiltIn : Key → Bool
  | builtIn _ => true
  | userDefined _ => false

/-- The reserved key that a user-defined key is probably a misspelling of. -/
def suggestion : Key → Option String
  | builtIn _ => none
  | userDefined name => suggestedKey name

/-- A key is classified alike when it is read and when it is made. -/
theorem ofRun_eq_ofName (run : String) : ofRun run = ofName run := by
  unfold ofRun ofName isBuiltInKey
  rcases hfound : builtInKey? run with _ | key
  · rfl
  · obtain ⟨rfl, -⟩ := builtInKey?_eq_some_iff.mp hfound
    rfl

example : ofRun "due" = builtIn "due" ∧ ofRun "duedate" = userDefined "duedate" := by decide

@[simp]
theorem name_ofName (name : String) : (ofName name).name = name := by
  unfold ofName
  split <;> rfl

@[simp]
theorem isBuiltIn_ofName (name : String) : (ofName name).isBuiltIn = isBuiltInKey name := by
  unfold ofName
  split
  · next h => simp [isBuiltIn, h]
  · next h => simpa [isBuiltIn] using h

theorem suggestion_ofName (name : String) : (ofName name).suggestion = suggestedKey name := by
  unfold ofName
  split
  · next h => simp [suggestion, suggestedKey, h]
  · rfl

end Key

end FilterQuery
