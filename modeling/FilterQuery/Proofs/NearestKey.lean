import FilterQuery.Key.Suggestion
import FilterQuery.Proofs.EditScripts

/-!
# The suggested key is the nearest one

* `FirstLeast`: an element less than those in front of it and no greater than those behind it.
  `minOn?_eq_some_iff`: this is the element that a search for the least one finds.
* `suggestedKey_iff_firstLeast`: so the suggestion is the first of the nearest reserved keys.
* `suggestedKey_eq_some_iff`: the same without the distances that are computed, in terms of edits.
-/

namespace FilterQuery

open Text

/-! ## The first least element -/

/-- The element `least` between `before` and `after` is the first of those with the least value. -/
structure FirstLeast {α : Type} (f : α → Nat) (before : List α) (least : α) (after : List α) :
    Prop where
  lt_before : ∀ element ∈ before, f least < f element
  le_after : ∀ element ∈ after, f least ≤ f element

section FirstLeast

variable {α β : Type} {f : α → Nat} {before after elements : List α} {least element : α}

theorem FirstLeast.le (h : FirstLeast f before least after)
    (hmem : element ∈ before ++ least :: after) : f least ≤ f element := by
  rcases List.mem_append.mp hmem with hmem | hmem
  · exact Nat.le_of_lt (h.lt_before element hmem)
  · rcases List.mem_cons.mp hmem with rfl | hmem
    · exact Nat.le_refl _
    · exact h.le_after element hmem

theorem FirstLeast.minOn?_eq (h : FirstLeast f before least after) :
    (before ++ least :: after).minOn? f = some least := by
  have hbehind : (least :: after).minOn? f = some least := by
    rw [List.minOn?_cons]
    rcases hfound : after.minOn? f with _ | found
    · rfl
    · exact congrArg some (minOn_eq_left (h.le_after found (List.minOn?_mem hfound)))
  rw [List.minOn?_append, hbehind]
  rcases hfound : before.minOn? f with _ | found
  · rfl
  · have hlt := h.lt_before found (List.minOn?_mem hfound)
    exact congrArg some (minOn_eq_right (Nat.not_le.mpr hlt))

theorem firstLeast_map (g : β → α) {before after : List β} {least : β} :
    FirstLeast f (before.map g) (g least) (after.map g) ↔
      FirstLeast (fun element => f (g element)) before least after :=
  ⟨fun h => ⟨fun _ hmem => h.lt_before _ (List.mem_map_of_mem hmem),
      fun _ hmem => h.le_after _ (List.mem_map_of_mem hmem)⟩,
    fun h => ⟨List.forall_mem_map.mpr h.lt_before, List.forall_mem_map.mpr h.le_after⟩⟩

theorem exists_firstLeast (h : elements.minOn? f = some least) :
    ∃ before after, elements = before ++ least :: after ∧ FirstLeast f before least after := by
  induction elements generalizing least with
  | nil => cases h
  | cons first elements ih =>
    rw [List.minOn?_cons] at h
    rcases hfound : elements.minOn? f with _ | found
    · obtain rfl : elements = [] := by
        by_contra hne
        have hsome := List.isSome_minOn?_iff (f := f).mpr hne
        rw [hfound] at hsome
        cases hsome
      obtain rfl := Option.some.inj h
      exact ⟨[], [], rfl, by simp, by simp⟩
    · obtain ⟨before, after, rfl, hleast⟩ := ih hfound
      rw [hfound] at h
      replace h : minOn f first found = least := Option.some.inj h
      by_cases hle : f first ≤ f found
      · -- A tie goes to the element in front.
        rw [minOn_eq_left hle] at h
        subst h
        exact ⟨[], _, rfl, by simp, fun element hmem => Nat.le_trans hle (hleast.le hmem)⟩
      · rw [minOn_eq_right hle] at h
        subst h
        exact ⟨first :: before, after, rfl,
          List.forall_mem_cons.mpr ⟨Nat.lt_of_not_le hle, hleast.lt_before⟩, hleast.le_after⟩

theorem minOn?_eq_some_iff :
    elements.minOn? f = some least ↔
      ∃ before after, elements = before ++ least :: after ∧ FirstLeast f before least after := by
  constructor
  · exact exists_firstLeast
  · rintro ⟨before, after, rfl, h⟩
    exact h.minOn?_eq

end FirstLeast

/-! ## Suggestions -/

/-- The first of the nearest reserved keys, as it is found with its distance. -/
theorem keyDistances_minOn?_eq_some_iff {name key : String} {distance : Nat} :
    (keyDistances name).minOn? Prod.snd = some (key, distance) ↔
      editDistance (lowercase name.toList) key.toList = distance ∧ ∃ before after,
        builtInKeys = before ++ key :: after ∧
        FirstLeast (fun key => editDistance (lowercase name.toList) key.toList) before key
          after := by
  let withDistance (key : String) : String × Nat :=
    (key, editDistance (lowercase name.toList) key.toList)
  have hdistances : keyDistances name = builtInKeys.map withDistance := rfl
  rw [minOn?_eq_some_iff, hdistances]
  constructor
  · rintro ⟨before, after, hkeys, hleast⟩
    obtain ⟨before, _, hbuiltIn, rfl, hbehind⟩ := List.map_eq_append_iff.mp hkeys
    obtain ⟨_, after, rfl, hkey, rfl⟩ := List.map_eq_cons_iff.mp hbehind
    obtain ⟨rfl, hdistance⟩ := Prod.mk.inj hkey
    subst hdistance
    exact ⟨rfl, before, after, hbuiltIn, (firstLeast_map withDistance).mp hleast⟩
  · rintro ⟨rfl, before, after, hbuiltIn, hleast⟩
    refine ⟨_, _, by rw [hbuiltIn, List.map_append, List.map_cons], ?_⟩
    exact (firstLeast_map withDistance).mpr hleast

theorem suggestedKey_iff_firstLeast {name key : String} :
    suggestedKey name = some key ↔ name ∉ builtInKeys ∧ ∃ before after,
      builtInKeys = before ++ key :: after ∧
      FirstLeast (fun key => editDistance (lowercase name.toList) key.toList) before key after ∧
      editDistance (lowercase name.toList) key.toList ≤ toleratedEdits name := by
  constructor
  · intro h
    rw [suggestedKey] at h
    split at h
    · cases h
    · next hname =>
      split at h
      · next found distance hfound =>
        split at h
        · next htolerated =>
          obtain rfl := Option.some.inj h
          obtain ⟨rfl, before, after, hkeys, hleast⟩ :=
            keyDistances_minOn?_eq_some_iff.mp hfound
          exact ⟨mt isBuiltInKey_iff.mpr hname, before, after, hkeys, hleast, htolerated⟩
        · cases h
      · cases h
  · rintro ⟨hname, before, after, hkeys, hleast, htolerated⟩
    have hfound := keyDistances_minOn?_eq_some_iff.mpr ⟨rfl, before, after, hkeys, hleast⟩
    rw [suggestedKey, if_neg (mt isBuiltInKey_iff.mp hname), hfound]
    exact if_pos htolerated

/-- Of the reserved keys the first of the nearest ones is suggested, if it is near enough. The
distance of a key is the least number of edits that turn the lower case of the name into it. -/
theorem suggestedKey_eq_some_iff (name key : String) :
    suggestedKey name = some key ↔ name ∉ builtInKeys ∧ ∃ before after distance,
      builtInKeys = before ++ key :: after ∧
      IsLeast {n | Edits n (lowercase name.toList) key.toList} distance ∧
      distance ≤ min 2 (name.toList.length / 3) ∧
      (∀ other ∈ builtInKeys, ∀ n, Edits n (lowercase name.toList) other.toList → distance ≤ n) ∧
      ∀ other ∈ before, ∀ n, Edits n (lowercase name.toList) other.toList → distance < n := by
  rw [suggestedKey_iff_firstLeast]
  refine and_congr_right fun _ => ?_
  constructor
  · rintro ⟨before, after, hkeys, hleast, htolerated⟩
    refine ⟨before, after, _, hkeys, isLeast_editDistance _ _, htolerated, ?_, ?_⟩
    · intro other hother n hn
      rw [hkeys] at hother
      exact Nat.le_trans (hleast.le hother) hn.editDistance_le
    · intro other hother n hn
      exact Nat.lt_of_lt_of_le (hleast.lt_before other hother) hn.editDistance_le
  · rintro ⟨before, after, distance, hkeys, hdistance, htolerated, hle, hlt⟩
    obtain rfl := hdistance.unique (isLeast_editDistance _ _)
    refine ⟨before, after, hkeys, ⟨?_, ?_⟩, htolerated⟩
    · exact fun other hother => hlt other hother _ (edits_editDistance _ _)
    · intro other hother
      exact hle other (by simp [hkeys, hother]) _ (edits_editDistance _ _)

/-- A capital costs no edit, but a letter that is missing does. -/
example : suggestedKey "Statu" = some "status" := by decide +kernel

end FilterQuery
