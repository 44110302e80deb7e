/-!
# Sets of characters given by ranges of scalar values

A character class of the Unicode standard is written down as a table: the closed ranges of scalar
values that it covers, in ascending order.

* `CharRanges.contains_iff`: on an ascending table, `contains` finds exactly the characters that
  some range covers, although it stops at the first range past the character.
-/

namespace FilterQuery.Text

/-- A table of closed ranges of scalar values, each a first and a last value. -/
abbrev CharRanges := List (Nat × Nat)

namespace CharRanges

/-- No range is empty, and each starts after the end of the one before it; the first one starts
at `low` or later. -/
def ascending (low : Nat) : CharRanges → Bool
  | [] => true
  | (first, last) :: ranges => low ≤ first && first ≤ last && ascending (last + 1) ranges

/-- Whether a range covers `c`, looking no further than the first range that starts after `c`. -/
def contains : CharRanges → Char → Bool
  | [], _ => false
  | (first, last) :: ranges, c =>
    if c.toNat < first then false
    else if c.toNat ≤ last then true
    else contains ranges c

theorem le_of_mem_of_ascending {low : Nat} {ranges : CharRanges} (h : ascending low ranges)
    {r : Nat × Nat} (hr : r ∈ ranges) : low ≤ r.1 := by
  induction ranges generalizing low with
  | nil => simp at hr
  | cons s ranges ih =>
    simp only [ascending, Bool.and_eq_true, decide_eq_true_eq] at h
    rcases List.mem_cons.1 hr with rfl | hr
    · exact h.1.1
    · have := ih h.2 hr
      omega

theorem contains_iff {low : Nat} {ranges : CharRanges} (h : ascending low ranges) (c : Char) :
    ranges.contains c = true ↔ ∃ r ∈ ranges, r.1 ≤ c.toNat ∧ c.toNat ≤ r.2 := by
  induction ranges generalizing low with
  | nil => simp [contains]
  | cons s ranges ih =>
    simp only [ascending, Bool.and_eq_true, decide_eq_true_eq] at h
    simp only [contains, List.mem_cons, exists_eq_or_imp, ← ih h.2]
    split
    · next hc =>
      have hnone : contains ranges c ≠ true := fun hcon => by
        obtain ⟨r, hr, hle, _⟩ := (ih h.2).1 hcon
        have := le_of_mem_of_ascending h.2 hr
        omega
      simp only [Bool.false_eq_true, false_iff, not_or]
      exact ⟨by omega, hnone⟩
    · split
      · simp only [true_iff]
        exact .inl (by omega)
      · simp only [iff_or_self, and_imp]
        omega

end CharRanges

end FilterQuery.Text
