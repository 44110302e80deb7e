import Mathlib.Data.List.Nodup

/-!
# Lookups among entries with distinct keys

The members of an object, the lines of a document and the entries of a document are lists in which
a value is looked up by its key.

* `lookup_eq_some_of_mem`: an entry is found under its key, if no other entry has that key.
* `lookup_of_perm`: neither the order of the entries nor entries with other keys matter.
-/

namespace FilterQuery

variable {κ α : Type}

/-- Of entries with distinct keys, only one has the key. -/
theorem value_of_nodup {key : κ} {value value' : α} {entries : List (κ × α)}
    (hnodup : (entries.map Prod.fst).Nodup) (h : (key, value) ∈ entries)
    (h' : (key, value') ∈ entries) : value' = value :=
  (Prod.mk.inj (List.inj_on_of_nodup_map hnodup h' h rfl)).2

variable [BEq κ] [LawfulBEq κ]

theorem lookup_cons_of_ne {key key' : κ} (h : key ≠ key') (value : α) (entries : List (κ × α)) :
    List.lookup key ((key', value) :: entries) = entries.lookup key := by
  rw [List.lookup_cons, beq_false_of_ne h]

theorem mem_of_lookup {key : κ} {value : α} {entries : List (κ × α)}
    (h : entries.lookup key = some value) : (key, value) ∈ entries := by
  obtain ⟨before, after, rfl, -⟩ := List.lookup_eq_some_iff.mp h
  simp

theorem lookup_eq_none_of_ne {key : κ} {entries : List (κ × α)}
    (h : ∀ entry ∈ entries, entry.1 ≠ key) : entries.lookup key = none :=
  List.lookup_eq_none_iff.mpr fun entry hentry => bne_iff_ne.mpr (h entry hentry).symm

theorem lookup_eq_some_of_mem {key : κ} {value : α} {entries : List (κ × α)}
    (hmem : (key, value) ∈ entries)
    (honly : ∀ value', (key, value') ∈ entries → value' = value) :
    entries.lookup key = some value := by
  obtain ⟨value', hvalue'⟩ := Option.isSome_iff_exists.mp
    (List.lookup_isSome_iff.mpr ⟨_, hmem, beq_self_eq_true key⟩)
  rw [hvalue', honly value' (mem_of_lookup hvalue')]

theorem lookup_of_perm {entries fields extra : List (κ × α)} {key : κ}
    (hperm : entries.Perm (fields ++ extra)) (hfields : (fields.map Prod.fst).Nodup)
    (hextra : ∀ entry ∈ extra, entry.1 ≠ key) : entries.lookup key = fields.lookup key := by
  -- What has the key among the entries is one of the fields.
  have hfield : ∀ value, (key, value) ∈ entries → (key, value) ∈ fields := fun value hmem =>
    (List.mem_append.mp (hperm.mem_iff.mp hmem)).resolve_right fun hmem => hextra _ hmem rfl
  rcases hlookup : fields.lookup key with _ | value
  · refine lookup_eq_none_of_ne fun entry hentry heq => ?_
    subst heq
    have hne := List.lookup_eq_none_iff.mp hlookup _ (hfield entry.2 hentry)
    exact bne_iff_ne.mp hne rfl
  · have hmem := mem_of_lookup hlookup
    exact lookup_eq_some_of_mem (hperm.mem_iff.mpr (List.mem_append_left _ hmem))
      fun value' hvalue' => value_of_nodup hfields hmem (hfield value' hvalue')

end FilterQuery
