import FilterQuery.Filter.Basic

/-!
# The keys of a filter

The keys of the attribute leaves from left to right, as a list and as a walk that finds them one at
a time and looks no further into the filter than it has to.

* `KeyWalk.toList_eq`: a walk finds the keys of its pending filters, in order.
* `Filter.toList_keyWalk`: the walk of a filter finds `Filter.keys`.
-/

namespace FilterQuery

/-- The keys of the attribute leaves, from left to right. -/
def Filter.keys : Filter → List Key
  | pair key _ => [key]
  | tag _ _ => []
  | binary left _ right => left.keys ++ right.keys

/-- A walk along the keys of some filters. -/
structure KeyWalk where
  /-- The filters still to be visited, the next one first. -/
  pending : List Filter
  deriving DecidableEq, Repr, Inhabited

/-- The walk along the keys of a filter. -/
def Filter.keyWalk (filter : Filter) : KeyWalk :=
  ⟨[filter]⟩

namespace KeyWalk

/-- The number of nodes still to be visited. -/
def size (walk : KeyWalk) : Nat :=
  walk.pending.foldr (fun filter count => filter.size + count) 0

/-- The next key, if there is one, and the walk after it. -/
def next (walk : KeyWalk) : Option Key × KeyWalk :=
  match walk with
  | ⟨[]⟩ => (none, ⟨[]⟩)
  | ⟨.pair key _ :: pending⟩ => (some key, ⟨pending⟩)
  | ⟨.tag _ _ :: pending⟩ => next ⟨pending⟩
  | ⟨.binary left _ right :: pending⟩ => next ⟨left :: right :: pending⟩
termination_by walk.size
decreasing_by
  · simp [size, Filter.size]
  · simp [size, Filter.size]
    omega

theorem size_next_lt {walk rest : KeyWalk} {key : Key} (h : walk.next = (some key, rest)) :
    rest.size < walk.size := by
  fun_induction next walk with
  | case1 => simp at h
  | case2 key' _ pending =>
    simp only [Prod.mk.injEq, Option.some.injEq] at h
    simp [← h.2, size, Filter.size]
  | case3 _ _ pending ih =>
    have := ih h
    simp only [size, List.foldr_cons] at this ⊢
    omega
  | case4 left _ right pending ih =>
    have := ih h
    simp only [size, List.foldr_cons, Filter.size] at this ⊢
    omega

/-- The keys that a walk finds. -/
def toList (walk : KeyWalk) : List Key :=
  match _h : walk.next with
  | (none, _) => []
  | (some key, rest) => key :: toList rest
termination_by walk.size
decreasing_by exact size_next_lt _h

theorem next_eq (walk : KeyWalk) :
    walk.next.1 = (walk.pending.flatMap Filter.keys).head? ∧
      walk.next.2.pending.flatMap Filter.keys = (walk.pending.flatMap Filter.keys).tail := by
  fun_induction next walk with
  | case1 => simp
  | case2 => simp [Filter.keys]
  | case3 _ _ pending ih => simpa [Filter.keys] using ih
  | case4 left _ right pending ih => simpa [Filter.keys] using ih

theorem toList_eq (walk : KeyWalk) : walk.toList = walk.pending.flatMap Filter.keys := by
  fun_induction toList walk with
  | case1 walk rest h =>
    have := (next_eq walk).1
    rw [h] at this
    exact (List.head?_eq_none_iff.1 this.symm).symm
  | case2 walk key rest h ih =>
    obtain ⟨hhead, htail⟩ := next_eq walk
    rw [h] at hhead htail
    obtain ⟨keys, hkeys⟩ := List.head?_eq_some_iff.1 hhead.symm
    rw [ih, htail, hkeys, List.tail_cons]

end KeyWalk

theorem Filter.toList_keyWalk (filter : Filter) : filter.keyWalk.toList = filter.keys := by
  simp [KeyWalk.toList_eq, keyWalk]

end FilterQuery
