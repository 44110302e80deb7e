import FilterQuery.Text.CharRanges

/-!
# Blanks

The characters with the Unicode property White_Space (version 17.0). Zero-width characters are not
among them.

* `isBlank_iff`: a character is blank if and only if a range of the table covers it.
-/

namespace FilterQuery.Text

/-- The characters with the property White_Space. -/
def blankRanges : CharRanges :=
  [(0x9, 0xD), (0x20, 0x20), (0x85, 0x85), (0xA0, 0xA0), (0x1680, 0x1680), (0x2000, 0x200A),
   (0x2028, 0x2029), (0x202F, 0x202F), (0x205F, 0x205F), (0x3000, 0x3000)]

/-- Whether `c` has the property White_Space. -/
def isBlank (c : Char) : Bool :=
  blankRanges.contains c

theorem ascending_blankRanges : blankRanges.ascending 0 := by
  decide +kernel

theorem isBlank_iff (c : Char) :
    isBlank c = true ↔ ∃ r ∈ blankRanges, r.1 ≤ c.toNat ∧ c.toNat ≤ r.2 :=
  CharRanges.contains_iff ascending_blankRanges c

end FilterQuery.Text
