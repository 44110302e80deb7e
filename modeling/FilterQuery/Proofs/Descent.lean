import FilterQuery.Proofs.Operand

/-!
# The descent without backtracking

The readers of disjunctions and of conjunctions are one reader of chains, and the operand that is
tried behind blanks and given up again is decided by what the text opens with.

* `afterJoint?`: the text of the next member of a chain, if the chain goes on. It looks at the word
  of the connective, or at blanks and the opening behind them.
* `read`, `readOn`: the readers, by part and by connective. `read_chain`, `readOn_eq` are the
  equations of a chain, in which nothing is ever taken back.
* `read_induction`: the induction that follows the descent. A property of all readers holds if every
  reader hands it on, where a reader may assume it of the calls that it makes.
-/

namespace FilterQuery

open Text

/-! ## What joins the members of a chain -/

theorem run_word (connective : Connective) : Run isKeyChar connective.word.toList :=
  ⟨by cases connective <;> decide, all_isKeyChar_word connective⟩

theorem stops_isBlank_word (connective : Connective) (text : List Char) :
    Stops isBlank (connective.word.toList ++ text) := by
  obtain ⟨c, tail, hword, hc, -, -⟩ := (run_word connective).exists_key
  rw [hword]
  exact stops_cons.mpr (isBlank_of_isKeyChar hc)

/-- A word is never the start of an operand: as a key it would go on, or its separator would
follow. -/
theorem afterWord?_of_startsOperand {text : List Char} (h : startsOperand text = true)
    (connective : Connective) : afterWord? connective.word.toList text = none := by
  rcases hword : afterWord? connective.word.toList text with _ | rest
  · rfl
  · obtain ⟨rfl, hrest⟩ := afterWord?_eq_some_iff.mp hword
    rw [startsOperand_letters (run_word connective)] at h
    · cases h
    · refine (continuesWord_eq_false_iff.mp hrest).mono fun c hc => ?_
      rcases Bool.or_eq_true_iff.mp hc with hc | hc
      · simp [isAlphanumeric_of_isAlphabetic hc]
      · simp [hc]

theorem afterConnective?_word {connective : Connective} {before behind rest : List Char}
    (hbefore : Blanks before) (hbehind : Blanks behind)
    (hword : continuesWord (behind ++ rest) = false) :
    afterConnective? connective (before ++ (connective.word.toList ++ (behind ++ rest)))
      = some (skipBlanks rest) := by
  rw [afterConnective?, skipBlanks_append hbefore,
    skipBlanks_of_stops (stops_isBlank_word connective _),
    afterWord?_eq_some_iff.mpr ⟨rfl, hword⟩, Option.map_some, skipBlanks_append hbehind]

/-- The word that was found, with the blanks around it. All blanks behind it are skipped. -/
theorem exists_word_of_afterConnective? {connective : Connective} {text rest : List Char}
    (h : afterConnective? connective text = some rest) :
    ∃ before behind, text = before ++ (connective.word.toList ++ (behind ++ rest)) ∧
      Blanks before ∧ Blanks behind ∧ continuesWord (behind ++ rest) = false ∧
      Stops isBlank rest := by
  obtain ⟨behindWord, hword, rfl⟩ := Option.map_eq_some_iff.mp h
  obtain ⟨hskip, hcontinues⟩ := afterWord?_eq_some_iff.mp hword
  obtain ⟨before, htext, hbefore⟩ := exists_blanks text
  obtain ⟨behind, hrest, hbehind⟩ := exists_blanks behindWord
  refine ⟨before, behind, ?_, hbefore, hbehind, ?_, stops_skipBlanks behindWord⟩
  · rw [← hrest, ← hskip]
    exact htext
  · rwa [← hrest]

theorem joint_of_afterConnective? {connective : Connective} {text rest : List Char}
    (h : afterConnective? connective text = some rest) :
    Joint connective text rest ∧ Stops isBlank rest := by
  obtain ⟨before, behind, rfl, hbefore, hbehind, hword, hrest⟩ :=
    exists_word_of_afterConnective? h
  exact ⟨.word hbefore hbehind hword, hrest⟩

/-- The text of the next member of a chain. For `and` it is behind the word, or else behind blanks
alone if an operand starts there. -/
def afterJoint? : Connective → List Char → Option (List Char)
  | .or, text => afterConnective? .or text
  | .and, text =>
    match afterConnective? .and text with
    | some rest => some rest
    | none =>
      if (skipBlanks text).length < text.length ∧ startsOperand (skipBlanks text) = true then
        some (skipBlanks text)
      else
        none

theorem afterJoint?_of_afterConnective? {connective : Connective} {text rest : List Char}
    (h : afterConnective? connective text = some rest) :
    afterJoint? connective text = some rest := by
  cases connective with
  | or => exact h
  | and => rw [afterJoint?, h]

theorem joint_of_afterJoint? {connective : Connective} {text rest : List Char}
    (h : afterJoint? connective text = some rest) :
    Joint connective text rest ∧ Stops isBlank rest := by
  cases connective with
  | or => exact joint_of_afterConnective? h
  | and =>
    simp only [afterJoint?] at h
    split at h
    · next hword =>
      obtain rfl := Option.some.inj h
      exact joint_of_afterConnective? hword
    · split at h
      · next hblanks =>
        obtain rfl := Option.some.inj h
        refine ⟨?_, stops_skipBlanks text⟩
        obtain ⟨between, htext, hbetween⟩ := exists_blanks text
        have joint : Joint .and (between ++ skipBlanks text) (skipBlanks text) := by
          refine .blanks hbetween ?_
          rintro rfl
          rw [List.nil_append] at htext
          rw [← htext] at hblanks
          exact Nat.lt_irrefl _ hblanks.1
        rwa [← htext] at joint
      · cases h

theorem afterJoint?_of_joint {connective : Connective} {text rest : List Char}
    (h : Joint connective text rest) (hrest : startsOperand rest = true) :
    afterJoint? connective text = some rest := by
  have hstops := stops_isBlank_of_startsOperand hrest
  cases h with
  | word hbefore hbehind hword =>
    have hsome : afterConnective? connective _ = _ :=
      afterConnective?_word hbefore hbehind hword
    rw [skipBlanks_of_stops hstops] at hsome
    cases connective with
    | or => exact hsome
    | and => rw [afterJoint?, hsome]
  | @blanks between _ hbetween hne =>
    have hskip : skipBlanks (between ++ rest) = rest := by
      rw [skipBlanks_append hbetween, skipBlanks_of_stops hstops]
    have hnone : afterConnective? .and (between ++ rest) = none := by
      rw [afterConnective?, hskip, afterWord?_of_startsOperand hrest, Option.map_none]
    have hlt : rest.length < (between ++ rest).length := by
      have := List.length_pos_iff.mpr hne
      rw [List.length_append]
      omega
    simp only [afterJoint?, hnone]
    rw [hskip, if_pos ⟨hlt, hrest⟩]

theorem length_afterJoint?_lt {connective : Connective} {text rest : List Char}
    (h : afterJoint? connective text = some rest) : rest.length < text.length := by
  cases connective with
  | or => exact length_afterConnective?_lt h
  | and =>
    simp only [afterJoint?] at h
    split at h
    · next hword =>
      obtain rfl := Option.some.inj h
      exact length_afterConnective?_lt hword
    · split at h
      · next hblanks =>
        obtain rfl := Option.some.inj h
        exact hblanks.1
      · cases h

theorem startsOperand_of_endsConjunction {text : List Char} (h : endsConjunction text = true) :
    startsOperand text = false := by
  cases hstart : startsOperand text with
  | false => rfl
  | true =>
    simp only [endsConjunction, Bool.or_eq_true] at h
    rw [afterWord?_of_startsOperand hstart] at h
    rcases h with (hnil | hclosing) | hword
    · rw [List.isEmpty_iff.mp hnil] at hstart
      exact hstart.symm
    · obtain ⟨rest, rfl⟩ := List.head?_eq_some_iff.mp (eq_of_beq hclosing)
      rw [startsOperand_other (by decide) rfl (by decide +kernel)] at hstart
      exact hstart.symm
    · cases hword

/-! ## The readers by part -/

/-- The reader of a part. -/
def read (settings : Settings) : Part → State → Reply Filter
  | .operand => operand settings
  | .chain .and => conjunction settings
  | .chain .or => disjunction settings

/-- The reader of the members that follow the first ones of a chain. -/
def readOn (settings : Settings) : Connective → Filter → State → Reply Filter
  | .and => moreConjuncts settings
  | .or => moreDisjuncts settings

section Read

variable {settings : Settings}

theorem read_chain (connective : Connective) (state : State) :
    read settings (.chain connective) state =
      (read settings connective.member state).andThen (readOn settings connective) := by
  cases connective with
  | and => exact conjunction_eq settings state
  | or => exact disjunction_eq settings state

theorem read_group (inside : List Char) (depth : Nat) :
    read settings .operand ⟨'(' :: inside, depth⟩ =
      if settings.maxDepth ≤ depth then
        .failed ⟨.tooDeep settings.maxDepth, '(' :: inside⟩ []
      else
        (read settings (.chain .or) ⟨skipBlanks inside, depth + 1⟩).andThen
          (closeGroup ('(' :: inside)) :=
  operand_group inside

/-- An operand is tried behind blanks exactly if one starts there; if none does, nothing is
joined. -/
theorem joinedOperand_andThen (state : State) (left : Filter)
    (h : afterConnective? .and state.unread = none) :
    moreConjuncts settings left state =
      match afterJoint? .and state.unread with
      | none => .done left state []
      | some unread => (operand settings ⟨unread, state.depth⟩).andThen fun right =>
          moreConjuncts settings (.both left right) := by
  rw [moreConjuncts_eq]
  simp only [h, afterJoint?]
  rw [joinedOperand_eq]
  have hle := length_skipBlanks_le state.unread
  by_cases hnone : (skipBlanks state.unread).length = state.unread.length ∨
      endsConjunction (skipBlanks state.unread) = true
  · have hjoint : ¬((skipBlanks state.unread).length < state.unread.length ∧
        startsOperand (skipBlanks state.unread) = true) := by
      rintro ⟨hlt, hstart⟩
      rcases hnone with heq | hends
      · omega
      · rw [startsOperand_of_endsConjunction hends] at hstart
        cases hstart
    rw [if_pos hnone, if_neg hjoint]
    rfl
  · rw [if_neg hnone]
    rw [not_or] at hnone
    by_cases hstart : startsOperand (skipBlanks state.unread) = true
    · rw [if_pos ⟨by omega, hstart⟩]
      rcases hreply : operand settings ⟨skipBlanks state.unread, state.depth⟩ with
        ⟨right, next, log⟩ | ⟨fault, log⟩
      · simp only [hreply]
        rfl
      · -- Either a group starts here, or the fault does not say that there is no operand.
        have hkept : ¬((skipBlanks state.unread).head? != some '(' &&
            fault.cause.isNoOperand) = true := by
          rw [Bool.and_eq_true, not_and]
          intro hgroup
          simp [isNoOperand_of_startsOperand hstart (bne_iff_ne.mp hgroup) hreply]
        simp only [joinedReply, hreply]
        rw [if_neg hkept]
        rfl
    · rw [if_neg fun h => hstart h.2]
      obtain ⟨fault, hreply, hcause, hgroup⟩ :=
        operand_of_not_startsOperand settings state.depth (Bool.eq_false_iff.mpr hstart)
      rw [hreply]
      simp only [joinedReply]
      rw [if_pos (by simp [hcause, hgroup])]
      rfl

theorem readOn_eq (connective : Connective) (left : Filter) (state : State) :
    readOn settings connective left state =
      match afterJoint? connective state.unread with
      | none => .done left state []
      | some unread =>
        (read settings connective.member ⟨unread, state.depth⟩).andThen fun right =>
          readOn settings connective (.binary left connective right) := by
  cases connective with
  | or => exact moreDisjuncts_eq settings left state
  | and =>
    rcases hword : afterConnective? .and state.unread with _ | unread
    · exact joinedOperand_andThen state left hword
    · simp only [readOn, moreConjuncts_eq settings left state, hword, afterJoint?]
      rfl

theorem readOn_none {connective : Connective} {left : Filter} {text : List Char} {depth : Nat}
    (h : afterJoint? connective text = none) :
    readOn settings connective left ⟨text, depth⟩ = .done left ⟨text, depth⟩ [] := by
  rw [readOn_eq, h]

theorem readOn_some {connective : Connective} {left : Filter} {text unread : List Char}
    {depth : Nat} (h : afterJoint? connective text = some unread) :
    readOn settings connective left ⟨text, depth⟩ =
      (read settings connective.member ⟨unread, depth⟩).andThen fun right =>
        readOn settings connective (.binary left connective right) := by
  rw [readOn_eq, h]

theorem length_member_lt {connective : Connective} {state next : State} {filter : Filter}
    {log : Log} (h : read settings connective.member state = .done filter next log) :
    next.unread.length < state.unread.length := by
  cases connective with
  | and => exact length_operand_lt h
  | or => exact length_conjunction_lt h

/-! ## The induction -/

/-- Induction along the descent, for a property `P` of the readers of parts and a property `Q` of
the readers of further members. -/
theorem read_induction {P : Part → State → Prop} {Q : Connective → Filter → State → Prop}
    (operand : ∀ state, (∀ inside, state.unread = '(' :: inside →
      P (.chain .or) ⟨skipBlanks inside, state.depth + 1⟩) → P .operand state)
    (chain : ∀ connective state, P connective.member state →
      (∀ left next log, read settings connective.member state = .done left next log →
        Q connective left next) → P (.chain connective) state)
    (more : ∀ connective left state, (∀ unread, afterJoint? connective state.unread = some unread →
      P connective.member ⟨unread, state.depth⟩ ∧
      ∀ right next log,
        read settings connective.member ⟨unread, state.depth⟩ = .done right next log →
        Q connective (.binary left connective right) next) → Q connective left state) :
    (∀ part state, P part state) ∧ ∀ connective left state, Q connective left state := by
  suffices h : ∀ n, (∀ part (state : State), state.unread.length < n → P part state) ∧
      ∀ connective left (state : State), state.unread.length < n → Q connective left state from
    ⟨fun part state => (h _).1 part state (Nat.lt_succ_self _),
      fun connective left state => (h _).2 connective left state (Nat.lt_succ_self _)⟩
  intro n
  induction n with
  | zero => exact ⟨fun _ _ h => absurd h (Nat.not_lt_zero _),
      fun _ _ _ h => absurd h (Nat.not_lt_zero _)⟩
  | succ n ih =>
    obtain ⟨ihP, ihQ⟩ := ih
    have hoperand : ∀ state : State, state.unread.length < n + 1 → P .operand state := by
      intro state hlt
      refine operand state fun inside hinside => ihP _ _ ?_
      have := length_skipBlanks_le inside
      rw [hinside, List.length_cons] at hlt
      dsimp only
      omega
    have hchain : ∀ connective (state : State), state.unread.length < n + 1 →
        P connective.member state → P (.chain connective) state := by
      intro connective state hlt hmember
      refine chain connective state hmember fun left next log hread => ihQ _ _ _ ?_
      have := length_member_lt hread
      omega
    constructor
    · intro part state hlt
      match part with
      | .operand => exact hoperand state hlt
      | .chain .and => exact hchain .and state hlt (hoperand state hlt)
      | .chain .or => exact hchain .or state hlt (hchain .and state hlt (hoperand state hlt))
    · intro connective left state hlt
      refine more connective left state fun unread hunread => ?_
      have hshorter := length_afterJoint?_lt hunread
      refine ⟨ihP _ _ (by dsimp only; omega), fun right next log hread => ihQ _ _ _ ?_⟩
      have := length_member_lt hread
      dsimp only at this
      omega

end Read

end FilterQuery
