import FilterQuery.Proofs.Descent
import FilterQuery.Reader.Parse

/-!
# The order in which the readers are asked

A reader asks other readers, and what it asks next depends on what the last one replied. Here every
reader is listed as often as it is asked, the operand that is tried behind blanks and given up
again among them.

* `visits`: the readers that a reader asks, itself at first, in the order in which they are asked.
  `Settings.visits` lists those of a whole text.
* `visits_disjunction` and the lemmas after it: what each of the readers asks.
* `visits_induction`: the induction along the visits, for properties of a reader and its start.
-/

namespace FilterQuery

/-- The readers. Those that read on know what stands before. -/
inductive Reader where
  /-- The reader of filters joined by `or`. -/
  | disjunction
  /-- The reader of what `or` joins to a filter. -/
  | moreDisjuncts (left : Filter)
  /-- The reader of operands joined by `and` or by blanks. -/
  | conjunction
  /-- The reader of what `and` or blanks join to a filter. -/
  | moreConjuncts (left : Filter)
  /-- The reader of an operand behind blanks. -/
  | joinedOperand
  /-- The reader of groups, attribute pairs and tags. -/
  | operand
  /-- The reader of groups. -/
  | group
  deriving DecidableEq, Repr

/-- A reader that is asked. -/
structure Visit where
  /-- The reader. -/
  reader : Reader
  /-- Where it starts. -/
  state : State
  deriving DecidableEq, Repr

/-- The readers that are asked behind a reply; behind a fault there are none. -/
def Reply.visits {α : Type} (more : α → State → List Visit) : Reply α → List Visit
  | done value next _ => more value next
  | failed _ _ => []

theorem Reply.mem_visits_iff {α : Type} {more : α → State → List Visit} {reply : Reply α}
    {visit : Visit} : visit ∈ reply.visits more ↔
      ∃ value next log, reply = .done value next log ∧ visit ∈ more value next := by
  cases reply with
  | done value next log =>
    constructor
    · exact fun h => ⟨value, next, log, rfl, h⟩
    · rintro ⟨_, _, _, ⟨⟩, h⟩
      exact h
  | failed fault log => simp [Reply.visits]

theorem length_joinedOperand_lt {settings : Settings} {state next : State} {filter : Filter}
    {log : Log} (h : joinedOperand settings state = .done (some filter) next log) :
    next.unread.length < state.unread.length := by
  have := (joinedOperandReading settings state).property
  rwa [show (joinedOperandReading settings state).val = _ from h] at this

/-- How far a reader stands above those that it asks where it starts itself. -/
def Reader.rank : Reader → Nat
  | disjunction => 3
  | conjunction => 2
  | moreConjuncts _ | operand => 1
  | moreDisjuncts _ | joinedOperand | group => 0

theorem Reader.rank_le (reader : Reader) : reader.rank ≤ 3 := by
  cases reader <;> simp [rank]

/-- What a visit has before it: the text, and the readers that are asked before any text is taken
up. -/
def Visit.size (visit : Visit) : Nat :=
  4 * visit.state.unread.length + visit.reader.rank

theorem Visit.size_lt {reader reader' : Reader} {state state' : State}
    (h : state'.unread.length < state.unread.length) :
    Visit.size ⟨reader', state'⟩ < Visit.size ⟨reader, state⟩ := by
  have hrank := reader'.rank_le
  simp only [Visit.size]
  omega

theorem Visit.size_lt_of_rank {reader reader' : Reader} {state : State}
    (h : reader'.rank < reader.rank) : Visit.size ⟨reader', state⟩ < Visit.size ⟨reader, state⟩ :=
  Nat.add_lt_add_left h _

/-- The readers that a reader asks, itself at first. -/
def visits (settings : Settings) (reader : Reader) (state : State) : List Visit :=
  ⟨reader, state⟩ ::
    match reader with
    | .disjunction =>
      visits settings .conjunction state ++
        match _h : FilterQuery.conjunction settings state with
        | .done left next _ => visits settings (.moreDisjuncts left) next
        | .failed _ _ => []
    | .moreDisjuncts left =>
      match _hword : afterConnective? .or state.unread with
      | none => []
      | some unread =>
        visits settings .conjunction ⟨unread, state.depth⟩ ++
          match _h : FilterQuery.conjunction settings ⟨unread, state.depth⟩ with
          | .done right next _ => visits settings (.moreDisjuncts (.either left right)) next
          | .failed _ _ => []
    | .conjunction =>
      visits settings .operand state ++
        match _h : FilterQuery.operand settings state with
        | .done left next _ => visits settings (.moreConjuncts left) next
        | .failed _ _ => []
    | .moreConjuncts left =>
      match _hword : afterConnective? .and state.unread with
      | some unread =>
        visits settings .operand ⟨unread, state.depth⟩ ++
          match _h : FilterQuery.operand settings ⟨unread, state.depth⟩ with
          | .done right next _ => visits settings (.moreConjuncts (.both left right)) next
          | .failed _ _ => []
      | none =>
        visits settings .joinedOperand state ++
          match _h : FilterQuery.joinedOperand settings state with
          | .done (some right) next _ => visits settings (.moreConjuncts (.both left right)) next
          | .done none _ _ => []
          | .failed _ _ => []
    | .joinedOperand =>
      if _h : (skipBlanks state.unread).length = state.unread.length ∨
          endsConjunction (skipBlanks state.unread) = true then
        []
      else
        visits settings .operand ⟨skipBlanks state.unread, state.depth⟩
    | .operand => if state.unread.head? = some '(' then visits settings .group state else []
    | .group =>
      match _h : state.unread with
      | [] => []
      | _ :: inside =>
        if settings.maxDepth ≤ state.depth then []
        else visits settings .disjunction ⟨skipBlanks inside, state.depth + 1⟩
termination_by Visit.size ⟨reader, state⟩
decreasing_by
  · exact Visit.size_lt_of_rank (by decide)
  · exact Visit.size_lt (length_conjunction_lt _h)
  · exact Visit.size_lt (length_afterConnective?_lt _hword)
  · exact Visit.size_lt
      (Nat.lt_trans (length_conjunction_lt _h) (length_afterConnective?_lt _hword))
  · exact Visit.size_lt_of_rank (by decide)
  · exact Visit.size_lt (length_operand_lt _h)
  · exact Visit.size_lt (length_afterConnective?_lt _hword)
  · exact Visit.size_lt (Nat.lt_trans (length_operand_lt _h) (length_afterConnective?_lt _hword))
  · exact Visit.size_lt_of_rank (Nat.zero_lt_one)
  · exact Visit.size_lt (length_joinedOperand_lt _h)
  · refine Visit.size_lt (Nat.lt_of_le_of_ne (length_skipBlanks_le state.unread) ?_)
    exact fun heq => _h (.inl heq)
  · exact Visit.size_lt_of_rank (by decide)
  · refine Visit.size_lt ?_
    rw [_h]
    exact Nat.lt_succ_of_le (length_skipBlanks_le inside)

section Visits

variable (settings : Settings) (state : State) (left : Filter)

theorem visits_disjunction : visits settings .disjunction state =
    ⟨.disjunction, state⟩ :: (visits settings .conjunction state ++
      (conjunction settings state).visits fun left => visits settings (.moreDisjuncts left)) := by
  rw [visits]
  split <;> simp [*, Reply.visits]

theorem visits_moreDisjuncts : visits settings (.moreDisjuncts left) state =
    ⟨.moreDisjuncts left, state⟩ ::
      match afterConnective? .or state.unread with
      | none => []
      | some unread => visits settings .conjunction ⟨unread, state.depth⟩ ++
          (conjunction settings ⟨unread, state.depth⟩).visits fun right =>
            visits settings (.moreDisjuncts (.either left right)) := by
  rw [visits]
  split
  · simp [*]
  · split <;> simp [*, Reply.visits]

theorem visits_conjunction : visits settings .conjunction state =
    ⟨.conjunction, state⟩ :: (visits settings .operand state ++
      (operand settings state).visits fun left => visits settings (.moreConjuncts left)) := by
  rw [visits]
  split <;> simp [*, Reply.visits]

theorem visits_moreConjuncts : visits settings (.moreConjuncts left) state =
    ⟨.moreConjuncts left, state⟩ ::
      match afterConnective? .and state.unread with
      | some unread => visits settings .operand ⟨unread, state.depth⟩ ++
          (operand settings ⟨unread, state.depth⟩).visits fun right =>
            visits settings (.moreConjuncts (.both left right))
      | none => visits settings .joinedOperand state ++
          (joinedOperand settings state).visits fun found next =>
            match found with
            | some right => visits settings (.moreConjuncts (.both left right)) next
            | none => [] := by
  rw [visits]
  split
  · split <;> simp [*, Reply.visits]
  · split <;> simp [*, Reply.visits]

theorem visits_joinedOperand : visits settings .joinedOperand state =
    ⟨.joinedOperand, state⟩ ::
      if (skipBlanks state.unread).length = state.unread.length ∨
          endsConjunction (skipBlanks state.unread) = true then
        []
      else
        visits settings .operand ⟨skipBlanks state.unread, state.depth⟩ := by
  rw [visits]
  split <;> rfl

theorem visits_operand : visits settings .operand state =
    ⟨.operand, state⟩ ::
      if state.unread.head? = some '(' then visits settings .group state else [] := by
  rw [visits]

theorem visits_group : visits settings .group state =
    ⟨.group, state⟩ ::
      match state.unread with
      | [] => []
      | _ :: inside =>
        if settings.maxDepth ≤ state.depth then []
        else visits settings .disjunction ⟨skipBlanks inside, state.depth + 1⟩ := by
  rw [visits]
  split <;> simp [*]

/-- Induction along the visits, for a property `P` of a reader and of the state in which it
starts. -/
theorem visits_induction {P : Reader → State → Prop}
    (disjunction : ∀ state, P .conjunction state →
      (∀ left next log, conjunction settings state = .done left next log →
        P (.moreDisjuncts left) next) → P .disjunction state)
    (moreDisjuncts : ∀ left state, (∀ unread, afterConnective? .or state.unread = some unread →
      P .conjunction ⟨unread, state.depth⟩ ∧
      ∀ right next log, conjunction settings ⟨unread, state.depth⟩ = .done right next log →
        P (.moreDisjuncts (.either left right)) next) → P (.moreDisjuncts left) state)
    (conjunction : ∀ state, P .operand state →
      (∀ left next log, operand settings state = .done left next log →
        P (.moreConjuncts left) next) → P .conjunction state)
    (moreConjuncts : ∀ left state, (∀ unread, afterConnective? .and state.unread = some unread →
      P .operand ⟨unread, state.depth⟩ ∧
      ∀ right next log, operand settings ⟨unread, state.depth⟩ = .done right next log →
        P (.moreConjuncts (.both left right)) next) →
      (afterConnective? .and state.unread = none → P .joinedOperand state ∧
        ∀ right next log, joinedOperand settings state = .done (some right) next log →
          P (.moreConjuncts (.both left right)) next) → P (.moreConjuncts left) state)
    (joinedOperand : ∀ state, ((skipBlanks state.unread).length < state.unread.length →
      P .operand ⟨skipBlanks state.unread, state.depth⟩) → P .joinedOperand state)
    (operand : ∀ state, P .group state → P .operand state)
    (group : ∀ state, (∀ c inside, state.unread = c :: inside →
      P .disjunction ⟨skipBlanks inside, state.depth + 1⟩) → P .group state) :
    ∀ reader state, P reader state := by
  suffices h : ∀ n reader state, Visit.size ⟨reader, state⟩ < n → P reader state from
    fun reader state => h _ reader state (Nat.lt_succ_self _)
  intro n
  induction n with
  | zero => exact fun _ _ h => absurd h (Nat.not_lt_zero _)
  | succ n ih =>
    intro reader state hsize
    -- What is asked where text was taken up, and what is asked in the same place.
    have behind : ∀ {reader' state'}, state'.unread.length < state.unread.length →
        P reader' state' := fun hlt =>
      ih _ _ (Nat.lt_of_lt_of_le (Visit.size_lt hlt) (Nat.le_of_lt_succ hsize))
    have here : ∀ {reader'}, reader'.rank < reader.rank → P reader' state := fun hrank =>
      ih _ _ (Nat.lt_of_lt_of_le (Visit.size_lt_of_rank hrank) (Nat.le_of_lt_succ hsize))
    cases reader with
    | disjunction =>
      exact disjunction state (here (by decide)) fun _ _ _ h => behind (length_conjunction_lt h)
    | moreDisjuncts left =>
      refine moreDisjuncts left state fun unread hword => ?_
      have hlt := length_afterConnective?_lt hword
      exact ⟨behind hlt, fun _ _ _ h => behind (Nat.lt_trans (length_conjunction_lt h) hlt)⟩
    | conjunction =>
      exact conjunction state (here (by decide)) fun _ _ _ h => behind (length_operand_lt h)
    | moreConjuncts left =>
      refine moreConjuncts left state (fun unread hword => ?_) fun _ => ?_
      · have hlt := length_afterConnective?_lt hword
        exact ⟨behind hlt, fun _ _ _ h => behind (Nat.lt_trans (length_operand_lt h) hlt)⟩
      · exact ⟨here Nat.zero_lt_one, fun _ _ _ h => behind (length_joinedOperand_lt h)⟩
    | joinedOperand => exact joinedOperand state fun hlt => behind hlt
    | operand => exact operand state (here (by decide))
    | group =>
      refine group state fun c inside hinside => behind ?_
      rw [hinside]
      exact Nat.lt_succ_of_le (length_skipBlanks_le inside)

end Visits

/-! ## Whole texts -/

/-- The readers that are asked for a text; none if the text is too long. -/
def Settings.visits (settings : Settings) (input : String) : List Visit :=
  match settings.exceededLimit (Text.byteLength input.toList) with
  | some _ => []
  | none => FilterQuery.visits settings .disjunction ⟨skipBlanks input.toList, 0⟩

end FilterQuery
