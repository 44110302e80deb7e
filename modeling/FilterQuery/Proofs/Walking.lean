import FilterQuery.Filter.Keys

/-!
# Walking along the keys of a filter

A walk finds a key by looking at pending filters one after another, and comes back with the first
key that it meets. How many filters that takes is not known beforehand.

* `KeyWalk.step`, `KeyWalk.search`: a look at one pending filter, and looks until a key is found or
  nothing is pending.
* `KeyWalk.search_eq_next`, `KeyWalk.search_of_found`: the search for the next key ends, since every
  step removes one node. A search that finds a key takes as many steps as it has removed nodes.
* `KeyWalk.replies_eq`: the replies of a walk are the keys of its pending filters, and nothing from
  then on.
* `Filter.replies_keyWalk`: so the walk of a filter finds its keys from left to right.
-/

namespace FilterQuery

namespace KeyWalk

/-! ## The search for one key -/

/-- What a look at the next pending filter comes to. -/
inductive Step where
  /-- There was no key in this place, and the search goes on. -/
  | onward (walk : KeyWalk)
  /-- The search is over, with a key or because nothing was pending. -/
  | over (found : Option Key) (walk : KeyWalk)
  deriving DecidableEq, Repr

/-- Looks at the next pending filter. A joined filter gives way to its two parts, the left one
first. -/
def step : KeyWalk → Step
  | ⟨[]⟩ => .over none ⟨[]⟩
  | ⟨.pair key _ :: pending⟩ => .over (some key) ⟨pending⟩
  | ⟨.tag _ _ :: pending⟩ => .onward ⟨pending⟩
  | ⟨.binary left _ right :: pending⟩ => .onward ⟨left :: right :: pending⟩

/-- The search for the next key, if it is over within the given number of steps. -/
def search : Nat → KeyWalk → Option (Option Key × KeyWalk)
  | 0, _ => none
  | steps + 1, walk =>
    match walk.step with
    | .onward walk => search steps walk
    | .over found walk => some (found, walk)

variable {walk rest : KeyWalk}

/-- A step after which the search goes on removes one node, and leaves the same key to be found. -/
theorem step_onward (h : walk.step = .onward rest) :
    walk.size = rest.size + 1 ∧ walk.next = rest.next := by
  rcases walk with ⟨_ | ⟨_ | _ | ⟨left, connective, right⟩, pending⟩⟩
  · cases h
  · cases h
  · cases h
    refine ⟨?_, by rw [next]⟩
    simp only [size, List.foldr_cons, Filter.size]
    omega
  · cases h
    refine ⟨?_, by rw [next]⟩
    simp only [size, List.foldr_cons, Filter.size]
    omega

theorem step_over {found : Option Key} (h : walk.step = .over found rest) :
    walk.next = (found, rest) := by
  rcases walk with ⟨_ | ⟨_ | _ | _, pending⟩⟩ <;> cases h <;> rw [next]

/-- The search for the next key ends before there are more steps than nodes. -/
theorem search_eq_next {steps : Nat} (h : walk.size < steps) :
    walk.search steps = some walk.next := by
  induction steps generalizing walk with
  | zero => exact absurd h (Nat.not_lt_zero _)
  | succ steps ih =>
    rw [search]
    rcases hstep : walk.step with rest | ⟨found, rest⟩
    · obtain ⟨hsize, hnext⟩ := step_onward hstep
      rw [hnext]
      exact ih (by omega)
    · exact congrArg some (step_over hstep).symm

/-- A search that finds a key takes one step for each node that it removes, and so it has not looked
at any other. -/
theorem search_of_found {key : Key} {steps : Nat} (h : walk.next = (some key, rest))
    (hsteps : walk.size = rest.size + steps) : walk.search steps = some (some key, rest) := by
  have hlt := size_next_lt h
  induction steps generalizing walk with
  | zero => omega
  | succ steps ih =>
    rw [search]
    rcases hstep : walk.step with middle | ⟨found, middle⟩
    · obtain ⟨hsize, hnext⟩ := step_onward hstep
      rw [hnext] at h
      exact ih h (by omega) (size_next_lt h)
    · exact congrArg some ((step_over hstep).symm.trans h)

/-! ## Many keys -/

/-- The walk after keys have been asked for a number of times. -/
def afterCalls : Nat → KeyWalk → KeyWalk
  | 0, walk => walk
  | calls + 1, walk => afterCalls calls walk.next.2

/-- The replies when keys are asked for a number of times. -/
def replies : Nat → KeyWalk → List (Option Key)
  | 0, _ => []
  | calls + 1, walk => walk.next.1 :: replies calls walk.next.2

/-- The first so many members of a list, and nothing where there are no more. -/
def padded (keys : List Key) (calls : Nat) : List (Option Key) :=
  (keys.take calls).map some ++ List.replicate (calls - keys.length) none

theorem padded_succ (keys : List Key) (calls : Nat) :
    padded keys (calls + 1) = keys.head? :: padded keys.tail calls := by
  cases keys with
  | nil => simp [padded, List.replicate_succ]
  | cons key keys => simp [padded]

theorem replies_eq (walk : KeyWalk) (calls : Nat) :
    walk.replies calls = padded (walk.pending.flatMap Filter.keys) calls := by
  induction calls generalizing walk with
  | zero => simp [replies, padded]
  | succ calls ih =>
    obtain ⟨hhead, htail⟩ := next_eq walk
    rw [replies, ih, htail, hhead, padded_succ]

/-- The keys that are left are those that have not been asked for. -/
theorem keys_afterCalls (walk : KeyWalk) (calls : Nat) :
    (walk.afterCalls calls).pending.flatMap Filter.keys =
      (walk.pending.flatMap Filter.keys).drop calls := by
  induction calls generalizing walk with
  | zero => rfl
  | succ calls ih => rw [afterCalls, ih, (next_eq walk).2, List.drop_tail]

theorem size_next_le (walk : KeyWalk) : walk.next.2.size ≤ walk.size := by
  fun_induction next walk with
  | case1 => exact Nat.le_refl _
  | case2 => simp [size]
  | case3 _ _ pending ih =>
    refine Nat.le_trans ih ?_
    simp [size]
  | case4 left _ right pending ih =>
    refine Nat.le_trans ih ?_
    simp only [size, List.foldr_cons, Filter.size]
    omega

theorem size_afterCalls_le (walk : KeyWalk) (calls : Nat) :
    (walk.afterCalls calls).size ≤ walk.size := by
  induction calls generalizing walk with
  | zero => exact Nat.le_refl _
  | succ calls ih => exact Nat.le_trans (ih walk.next.2) (size_next_le walk)

end KeyWalk

section KeyWalk

variable (filter : Filter) (calls : Nat)

theorem Filter.next_afterCalls :
    (filter.keyWalk.afterCalls calls).next.1 = (filter.keys.drop calls).head? := by
  rw [(KeyWalk.next_eq _).1, KeyWalk.keys_afterCalls]
  simp [keyWalk]

theorem Filter.size_afterCalls_lt : (filter.keyWalk.afterCalls calls).size < filter.size + 1 := by
  have hsize : filter.keyWalk.size = filter.size := by
    simp [keyWalk, KeyWalk.size]
  exact Nat.lt_succ_of_le (hsize ▸ KeyWalk.size_afterCalls_le filter.keyWalk calls)

/-- Asking the walk of a filter for keys finds the keys of the filter from left to right and then
nothing, ever after. Each search ends, at the latest when it has looked at every node of the filter;
one that finds a key has looked at no more nodes than those that it takes out of the walk. -/
theorem Filter.replies_keyWalk :
    filter.keyWalk.replies calls =
        (filter.keys.take calls).map some ++ List.replicate (calls - filter.keys.length) none ∧
      ((filter.keyWalk.afterCalls calls).next.1 = none →
        ∀ later, (filter.keyWalk.afterCalls (calls + later)).next.1 = none) ∧
      (filter.keyWalk.afterCalls calls).search (filter.size + 1) =
        some (filter.keyWalk.afterCalls calls).next ∧
      ∀ key rest, (filter.keyWalk.afterCalls calls).next = (some key, rest) →
        ∃ steps, (filter.keyWalk.afterCalls calls).size = rest.size + steps ∧
          (filter.keyWalk.afterCalls calls).search steps = some (some key, rest) := by
  refine ⟨?_, fun h later => ?_, KeyWalk.search_eq_next (filter.size_afterCalls_lt calls),
    fun key rest h => ?_⟩
  · rw [KeyWalk.replies_eq]
    simp [keyWalk, KeyWalk.padded]
  · rw [filter.next_afterCalls, List.head?_eq_none_iff, List.drop_eq_nil_iff] at h ⊢
    exact Nat.le_add_right_of_le h
  · obtain ⟨steps, hsteps⟩ := Nat.exists_eq_add_of_le (Nat.le_of_lt (KeyWalk.size_next_lt h))
    exact ⟨steps, hsteps, KeyWalk.search_of_found h hsteps⟩

/-- The second search passes a tag on its way, and there is no third key. -/
theorem Filter.replies_keyWalk_tagBetween :
    let filter : Filter :=
      .either (.both (.ofPair "due" "1w") (.tag .includes "home")) (.ofPair "client" "acme")
    filter.keyWalk.replies 4 =
        [some (.builtIn "due"), some (.userDefined "client"), none, none] ∧
      (filter.keyWalk.afterCalls (2 + 5)).next.1 = none ∧
      ∃ steps, (filter.keyWalk.afterCalls 1).size = KeyWalk.size ⟨[]⟩ + steps ∧
        (filter.keyWalk.afterCalls 1).search steps = some (some (.userDefined "client"), ⟨[]⟩) := by
  intro filter
  have hsecond : (filter.keyWalk.afterCalls 1).next = (some (.userDefined "client"), ⟨[]⟩) := by
    simp only [filter, either, both, ofPair, keyWalk, KeyWalk.afterCalls, KeyWalk.next]
    decide
  have hthird : (filter.keyWalk.afterCalls 2).next.1 = none := by
    rw [filter.next_afterCalls]
    decide
  exact ⟨(filter.replies_keyWalk 4).1, (filter.replies_keyWalk 2).2.1 hthird 5,
    (filter.replies_keyWalk 1).2.2.2 _ _ hsecond⟩

end KeyWalk

end FilterQuery
