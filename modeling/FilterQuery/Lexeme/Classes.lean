import FilterQuery.Text.Blank
import FilterQuery.Text.Numeric

/-!
# The character classes of the filter language

Which characters make up keys, tag names and bare values, and which mark delimits a quoted value.

* `isBare_iff`: a value can be written without quotes exactly when it is a non-empty run of value
  characters.
* `isValueChar_quoteMark`, `isBlank_quoteMark`: the quote belongs to no run.
-/

namespace FilterQuery

open Text

/-- The mark before and after a quoted value. -/
def quoteMark : Char := '\''

/-- The characters of attribute keys. -/
def isKeyChar (c : Char) : Bool :=
  isAlphabetic c

/-- The characters of tag names. -/
def isTagChar (c : Char) : Bool :=
  isAlphanumeric c

/-- The characters of values that stand without quotes. -/
def isValueChar (c : Char) : Bool :=
  isAlphanumeric c || c == '-' || c == ':'

/-- Whether `value` can be written without quotes. -/
def isBare (value : String) : Bool :=
  !value.toList.isEmpty && value.toList.all isValueChar

theorem isBare_iff {value : String} :
    isBare value = true ↔ value.toList ≠ [] ∧ ∀ c ∈ value.toList, isValueChar c = true := by
  simp [isBare]

theorem isTagChar_of_isKeyChar {c : Char} (h : isKeyChar c = true) : isTagChar c = true :=
  isAlphanumeric_of_isAlphabetic h

theorem isValueChar_of_isTagChar {c : Char} (h : isTagChar c = true) : isValueChar c = true := by
  have : isAlphanumeric c = true := h
  simp [isValueChar, this]

theorem isValueChar_quoteMark : isValueChar quoteMark = false := by
  decide +kernel

theorem isBlank_quoteMark : isBlank quoteMark = false := by
  decide +kernel

end FilterQuery
