import FilterQuery.Text.EditDistance
import Mathlib.Order.Bounds.Basic

/-!
# Edit distances count edits

The distance is computed from a table, but it is the least number of edits that turn one text into
the other, among all ways to do so: edits may be made anywhere, in any order, and one may undo
another.

* `Edit`, `Edits`: one insertion, deletion or substitution of a character; so many of them.
* `distanceRow_cons`: the table, row by row. `editDistance_nil`, `editDistance_to_nil` and
  `editDistance_cons` are the equations of the distance that follow from it.
* `Edit.editDistance_le`: one edit brings no target closer by more than one.
* `edits_editDistance`: the distance is the number of some edits.
* `isLeast_editDistance`: so it is the least one.
-/

namespace FilterQuery.Text

/-! ## Edits -/

/-- The second text is the first one after one edit. -/
inductive Edit : List Char → List Char → Prop
  | insertion (before : List Char) (c : Char) (after : List Char) :
      Edit (before ++ after) (before ++ c :: after)
  | deletion (before : List Char) (c : Char) (after : List Char) :
      Edit (before ++ c :: after) (before ++ after)
  | substitution (before : List Char) (c d : Char) (after : List Char) :
      Edit (before ++ c :: after) (before ++ d :: after)

/-- The second text is the first one after so many edits. -/
inductive Edits : Nat → List Char → List Char → Prop
  | done {text : List Char} : Edits 0 text text
  | step {n : Nat} {source middle target : List Char} : Edit source middle →
      Edits n middle target → Edits (n + 1) source target

theorem Edit.cons {source target : List Char} (h : Edit source target) (c : Char) :
    Edit (c :: source) (c :: target) := by
  cases h with
  | insertion before d after => exact .insertion (c :: before) d after
  | deletion before d after => exact .deletion (c :: before) d after
  | substitution before d d' after => exact .substitution (c :: before) d d' after

theorem Edits.cons {n : Nat} {source target : List Char} (h : Edits n source target) (c : Char) :
    Edits n (c :: source) (c :: target) := by
  induction h with
  | done => exact .done
  | step edit _ ih => exact .step (edit.cons c) ih

/-! ## The table -/

theorem tail_extendRow (c d : Char) (target : List Char) {row : List Nat} (h : 1 < row.length) :
    (extendRow c (d :: target) row).tail = extendRow c target row.tail := by
  match row, h with
  | deleted :: kept :: row, _ => rfl

/-- A row goes on with the row for the target without its first character. -/
theorem tail_distanceRow (source : List Char) (d : Char) (target : List Char) :
    (distanceRow source (d :: target)).tail = distanceRow source target := by
  induction source with
  | nil => rfl
  | cons c source ih =>
    have hlength : 1 < (distanceRow source (d :: target)).length := by
      rw [length_distanceRow, List.length_cons]
      omega
    refine (tail_extendRow c d target hlength).trans ?_
    rw [ih]
    rfl

theorem distanceRow_eq (source target : List Char) :
    distanceRow source target = editDistance source target :: (distanceRow source target).tail := by
  have hne : distanceRow source target ≠ [] := by
    rw [← List.length_pos_iff, length_distanceRow]
    exact Nat.succ_pos _
  obtain ⟨distance, row, hrow⟩ := List.exists_cons_of_ne_nil hne
  rw [editDistance, hrow]
  rfl

theorem distanceRow_cons (source : List Char) (d : Char) (target : List Char) :
    distanceRow source (d :: target) =
      editDistance source (d :: target) :: distanceRow source target := by
  rw [distanceRow_eq, tail_distanceRow]

theorem editDistance_nil (target : List Char) : editDistance [] target = target.length := by
  cases target <;> rfl

theorem editDistance_to_nil (source : List Char) : editDistance source [] = source.length := by
  have hrow : distanceRow source [] = [source.length] := by
    induction source with
    | nil => rfl
    | cons c source ih =>
      have hstep : distanceRow (c :: source) [] = (distanceRow source []).map (· + 1) := rfl
      rw [hstep, ih]
      rfl
  rw [editDistance, hrow]
  rfl

theorem editDistance_cons (c : Char) (source : List Char) (d : Char) (target : List Char) :
    editDistance (c :: source) (d :: target) =
      min (min (editDistance source (d :: target) + 1) (editDistance (c :: source) target + 1))
        (editDistance source target + if c = d then 0 else 1) := by
  have hrow : distanceRow (c :: source) (d :: target) =
      extendRow c (d :: target) (editDistance source (d :: target) ::
        editDistance source target :: (distanceRow source target).tail) := by
    rw [← distanceRow_eq, ← distanceRow_cons]
    rfl
  have hrest : extendRow c target (editDistance source target ::
      (distanceRow source target).tail) = distanceRow (c :: source) target := by
    rw [← distanceRow_eq]
    rfl
  rw [editDistance, hrow, extendRow, hrest, distanceRow_eq (c :: source) target]
  split <;> simp [*]

/-! ## No fewer edits -/

theorem editDistance_self (text : List Char) : editDistance text text = 0 := by
  induction text with
  | nil => rfl
  | cons c text ih => simp [editDistance_cons, ih]

theorem editDistance_delete_le (c : Char) (source target : List Char) :
    editDistance (c :: source) target ≤ editDistance source target + 1 := by
  cases target with
  | nil => simp [editDistance_to_nil]
  | cons d target =>
    rw [editDistance_cons]
    omega

/-- What is put in front of the target takes one insertion at most. -/
theorem editDistance_cons_le (source : List Char) (d : Char) (target : List Char) :
    editDistance source (d :: target) ≤ editDistance source target + 1 := by
  cases source with
  | nil => simp [editDistance_nil]
  | cons c source =>
    rw [editDistance_cons]
    omega

theorem editDistance_insert_le (c : Char) (source target : List Char) :
    editDistance source target ≤ editDistance (c :: source) target + 1 := by
  induction target with
  | nil =>
    simp only [editDistance_to_nil, List.length_cons]
    omega
  | cons d target ih =>
    have hcons := editDistance_cons_le source d target
    rw [editDistance_cons]
    omega

theorem editDistance_substitute_le (c c' : Char) (source target : List Char) :
    editDistance (c :: source) target ≤ editDistance (c' :: source) target + 1 := by
  induction target with
  | nil => simp [editDistance_to_nil]
  | cons d target ih =>
    rw [editDistance_cons, editDistance_cons]
    split <;> omega

/-- What the two sources start with does not matter. -/
theorem editDistance_cons_le_of_le {source source' : List Char}
    (h : ∀ target, editDistance source target ≤ editDistance source' target + 1) (c : Char)
    (target : List Char) :
    editDistance (c :: source) target ≤ editDistance (c :: source') target + 1 := by
  induction target with
  | nil =>
    have hnil := h []
    simp only [editDistance_to_nil, List.length_cons] at hnil ⊢
    omega
  | cons d target ih =>
    have htarget := h target
    have hcons := h (d :: target)
    rw [editDistance_cons, editDistance_cons]
    omega

theorem editDistance_append_le {source source' : List Char}
    (h : ∀ target, editDistance source target ≤ editDistance source' target + 1)
    (before target : List Char) :
    editDistance (before ++ source) target ≤ editDistance (before ++ source') target + 1 := by
  induction before generalizing target with
  | nil => exact h target
  | cons c before ih => exact editDistance_cons_le_of_le ih c target

/-- An edit brings no target closer by more than one. -/
theorem Edit.editDistance_le {source middle : List Char} (h : Edit source middle)
    (target : List Char) : editDistance source target ≤ editDistance middle target + 1 := by
  cases h with
  | insertion before c after => exact editDistance_append_le (editDistance_insert_le c after) _ _
  | deletion before c after => exact editDistance_append_le (editDistance_delete_le c after) _ _
  | substitution before c d after =>
    exact editDistance_append_le (editDistance_substitute_le c d after) _ _

theorem Edits.editDistance_le {n : Nat} {source target : List Char} (h : Edits n source target) :
    editDistance source target ≤ n := by
  induction h with
  | done => exact Nat.le_of_eq (editDistance_self _)
  | step edit _ ih => exact Nat.le_trans (edit.editDistance_le _) (Nat.succ_le_succ ih)

/-! ## No more edits -/

/-- An entry of the table comes from one of the three entries beside it. -/
theorem editDistance_cons_choice (c : Char) (source : List Char) (d : Char) (target : List Char) :
    editDistance (c :: source) (d :: target) = editDistance source (d :: target) + 1 ∨
      editDistance (c :: source) (d :: target) = editDistance (c :: source) target + 1 ∨
      editDistance (c :: source) (d :: target) =
        editDistance source target + if c = d then 0 else 1 := by
  have hleast := editDistance_cons c source d target
  omega

/-- The edits that the table stands for: each entry adds one edit, or none, to those of the entry
that it comes from. -/
theorem edits_editDistance (source target : List Char) :
    Edits (editDistance source target) source target := by
  induction source generalizing target with
  | nil =>
    rw [editDistance_nil]
    induction target with
    | nil => exact .done
    | cons d target ih => exact .step (.insertion [] d []) (ih.cons d)
  | cons c source ihSource =>
    induction target with
    | nil =>
      have hnil := ihSource []
      rw [editDistance_to_nil] at hnil ⊢
      exact .step (.deletion [] c source) hnil
    | cons d target ihTarget =>
      have hmatch : Edits (editDistance source target + if c = d then 0 else 1) (c :: source)
          (d :: target) := by
        split
        · next heq => exact heq ▸ (ihSource target).cons c
        · exact .step (.substitution [] c d source) ((ihSource target).cons d)
      rcases editDistance_cons_choice c source d target with hleast | hleast | hleast
      · exact hleast ▸ .step (.deletion [] c source) (ihSource (d :: target))
      · exact hleast ▸ .step (.insertion [] d (c :: source)) (ihTarget.cons d)
      · exact hleast ▸ hmatch

/-- The edit distance is the least number of edits that turn one text into the other. -/
theorem isLeast_editDistance (source target : List Char) :
    IsLeast {n | Edits n source target} (editDistance source target) :=
  ⟨edits_editDistance source target, fun _ => Edits.editDistance_le⟩

end FilterQuery.Text
