import FilterQuery.Reader.Leaf

/-!
# Reading expressions

Filters are read by recursive descent, without looking ahead further than a word:

    disjunction  =  conjunction ("or" conjunction)*
    conjunction  =  operand ("and" operand | blanks operand)*
    operand      =  "(" disjunction ")"  |  key ":" value  |  sign name

Chains group to the left. Blanks join two operands by themselves, unless they are followed by `or`,
by a closing parenthesis, by the end or by text that starts no operand.

Every reader is first defined with the proof that it takes up text, which is what lets the readers
call each other, and then without it. The equations that follow (`disjunction_eq` and the others)
are the definition of the language for everything that comes after.
-/

namespace FilterQuery

open Text

/-! ## Parts that do not call each other -/

/-- Whether the text behind some blanks cannot be an operand that the blanks join. -/
def endsConjunction (text : List Char) : Bool :=
  text.isEmpty || text.head? == some ')' || (afterWord? Connective.or.word.toList text).isSome

/-- Whether a fault behind some blanks, in text that starts with no parenthesis, only means that
the blanks do not join anything. -/
def Cause.isNoOperand (cause : Cause) : Bool :=
  cause.kind == .unrecognizedOperand || cause.kind == .missingSeparator

/-- The reply of an operand that blanks join to what stands before them, as a reply of the blanks.
If there is no operand, the reply is that nothing was joined, in the state `before` the blanks. -/
def joinedReply (before : State) (operandText : List Char) : Reply Filter → Reply (Option Filter)
  | .done operand next log => .done (some operand) next log
  | .failed fault log =>
    if operandText.head? != some '(' && fault.cause.isNoOperand then
      .done none before log
    else
      .failed fault log

/-- How many characters are left at most behind blanks and the operand that they join. -/
def joinedBound (before : State) : Option Filter → Nat
  | none => before.unread.length + 1
  | some _ => before.unread.length

/-- Closes the group that began with the text `opening`, behind the filter `inner`. -/
def closeGroup (opening : List Char) (inner : Filter) (state : State) : Reply Filter :=
  match skipBlanks state.unread with
  | ')' :: rest => .done inner ⟨rest, state.depth - 1⟩ []
  | unread@(found :: _) =>
    if unread.contains ')' then
      .failed ⟨.trailingInGroup found, unread⟩ []
    else
      .failed ⟨.openGroup (offset opening unread), unread⟩ []
  | [] => .failed ⟨.openGroup (offset opening []), []⟩ []

theorem leavesBelow_closeGroup (opening : List Char) (inner : Filter) (state : State) :
    (closeGroup opening inner state).LeavesBelow fun _ => state.unread.length + 1 := by
  unfold closeGroup
  have := length_skipBlanks_le state.unread
  split
  · next rest h =>
    rw [h] at this
    simp only [Reply.LeavesBelow, List.length_cons] at this ⊢
    omega
  · split <;> trivial
  · trivial

theorem leavesBelow_joinedReply {before : State} {operandText : List Char} {reply : Reply Filter}
    (h : reply.LeavesBelow fun _ => before.unread.length) :
    (joinedReply before operandText reply).LeavesBelow (joinedBound before) := by
  match reply with
  | .done operand next log => exact h
  | .failed fault log =>
    simp only [joinedReply]
    split
    · exact Nat.lt_succ_self _
    · trivial

/-! ## The readers with the proof that they take up text -/

mutual

/-- Reads filters joined by `or`, and takes up text. -/
def disjunctionReading (settings : Settings) (state : State) :
    Reading Filter fun _ => state.unread.length :=
  (conjunctionReading settings state).andThen (fun _ => Nat.le_refl _) fun left next _ =>
    moreDisjunctsReading settings left next
termination_by 4 * state.unread.length + 3

/-- Reads on behind `left`, as long as `or` follows, and gives no text back. -/
def moreDisjunctsReading (settings : Settings) (left : Filter) (state : State) :
    Reading Filter fun _ => state.unread.length + 1 :=
  match h : afterConnective? .or state.unread with
  | none => .done left state (Nat.lt_succ_self _)
  | some unread =>
    have := length_afterConnective?_lt h
    (conjunctionReading settings ⟨unread, state.depth⟩).andThen
      (fun _ => Nat.le_succ_of_le (Nat.le_of_lt this))
      fun right next (_ : next.unread.length < unread.length) =>
        moreDisjunctsReading settings (.either left right) next
termination_by 4 * state.unread.length

/-- Reads operands joined by `and` or by blanks, and takes up text. -/
def conjunctionReading (settings : Settings) (state : State) :
    Reading Filter fun _ => state.unread.length :=
  (operandReading settings state).andThen (fun _ => Nat.le_refl _) fun left next _ =>
    moreConjunctsReading settings left next
termination_by 4 * state.unread.length + 2

/-- Reads on behind `left`, as long as `and` or an operand behind blanks follows, and gives no text
back. -/
def moreConjunctsReading (settings : Settings) (left : Filter) (state : State) :
    Reading Filter fun _ => state.unread.length + 1 :=
  match h : afterConnective? .and state.unread with
  | some unread =>
    have := length_afterConnective?_lt h
    (operandReading settings ⟨unread, state.depth⟩).andThen
      (fun _ => Nat.le_succ_of_le (Nat.le_of_lt this))
      fun right next (_ : next.unread.length < unread.length) =>
        moreConjunctsReading settings (.both left right) next
  | none =>
    (joinedOperandReading settings state).andThen
      (fun found => by cases found <;> simp [joinedBound]) fun found next h =>
        match found, h with
        | none, _ => .done left next (Nat.lt_succ_self _)
        | some right, _ => moreConjunctsReading settings (.both left right) next
termination_by 4 * state.unread.length + 1

/-- Reads an operand behind blanks, and takes up text if there is one that the blanks join. -/
def joinedOperandReading (settings : Settings) (state : State) :
    Reading (Option Filter) (joinedBound state) :=
  if h : (skipBlanks state.unread).length = state.unread.length ∨
      endsConjunction (skipBlanks state.unread) = true then
    .done none state (Nat.lt_succ_self _)
  else
    have := length_skipBlanks_le state.unread
    have : (skipBlanks state.unread).length < state.unread.length := by omega
    let reading := operandReading settings ⟨skipBlanks state.unread, state.depth⟩
    ⟨joinedReply state (skipBlanks state.unread) reading.val,
      leavesBelow_joinedReply (reading.property.mono fun _ => Nat.le_of_lt this)⟩
termination_by 4 * state.unread.length

/-- Reads a group, an attribute pair or a tag, and takes up text. -/
def operandReading (settings : Settings) (state : State) :
    Reading Filter fun _ => state.unread.length :=
  match h : state.unread with
  | [] => .fail ⟨.noOperand none, []⟩
  | c :: unread =>
    if c = '(' then
      ⟨(groupReading settings state).val, h ▸ (groupReading settings state).property⟩
    else
      match Polarity.ofSign? c with
      | some polarity =>
        ⟨tagOperand polarity ⟨unread, state.depth⟩,
          (leavesBelow_tagOperand polarity _).mono fun _ => Nat.le_succ _⟩
      | none =>
        if isKeyChar c then
          ⟨pairOperand settings state, h ▸ leavesBelow_pairOperand settings state⟩
        else
          .fail ⟨.noOperand (some c), c :: unread⟩
termination_by 4 * state.unread.length + 1

/-- Reads a group, and takes up text. -/
def groupReading (settings : Settings) (state : State) :
    Reading Filter fun _ => state.unread.length :=
  match h : state.unread with
  | [] => .fail ⟨.noOperand none, []⟩
  | c :: inside =>
    if settings.maxDepth ≤ state.depth then
      .fail ⟨.tooDeep settings.maxDepth, c :: inside⟩
    else
      have := length_skipBlanks_le inside
      have : state.unread.length = inside.length + 1 := h ▸ List.length_cons
      (disjunctionReading settings ⟨skipBlanks inside, state.depth + 1⟩).andThen
        (fun _ => Nat.le_succ_of_le (length_skipBlanks_le inside)) fun inner next _ =>
          ⟨closeGroup (c :: inside) inner next, leavesBelow_closeGroup _ _ _⟩
termination_by 4 * state.unread.length

end

/-! ## The readers -/

/-- Reads filters joined by `or`. -/
def disjunction (settings : Settings) (state : State) : Reply Filter :=
  (disjunctionReading settings state).val

/-- Reads on behind `left`, as long as `or` follows. -/
def moreDisjuncts (settings : Settings) (left : Filter) (state : State) : Reply Filter :=
  (moreDisjunctsReading settings left state).val

/-- Reads operands joined by `and` or by blanks. -/
def conjunction (settings : Settings) (state : State) : Reply Filter :=
  (conjunctionReading settings state).val

/-- Reads on behind `left`, as long as `and` or an operand behind blanks follows. -/
def moreConjuncts (settings : Settings) (left : Filter) (state : State) : Reply Filter :=
  (moreConjunctsReading settings left state).val

/-- Reads an operand behind blanks, if there is one that the blanks join to what stands before
them. Otherwise nothing is read. -/
def joinedOperand (settings : Settings) (state : State) : Reply (Option Filter) :=
  (joinedOperandReading settings state).val

/-- Reads a group, an attribute pair or a tag. -/
def operand (settings : Settings) (state : State) : Reply Filter :=
  (operandReading settings state).val

/-- Reads a group, from its opening to its closing parenthesis. -/
def group (settings : Settings) (state : State) : Reply Filter :=
  (groupReading settings state).val

theorem disjunction_eq (settings : Settings) (state : State) :
    disjunction settings state = (conjunction settings state).andThen (moreDisjuncts settings) := by
  rw [disjunction, disjunctionReading]
  exact Reading.val_andThen _ _ _ _ fun _ _ _ => rfl

theorem moreDisjuncts_eq (settings : Settings) (left : Filter) (state : State) :
    moreDisjuncts settings left state =
      match afterConnective? .or state.unread with
      | none => .done left state []
      | some unread =>
        (conjunction settings ⟨unread, state.depth⟩).andThen fun right =>
          moreDisjuncts settings (.either left right) := by
  rw [moreDisjuncts, moreDisjunctsReading]
  split
  · next h =>
    rw [h]
    rfl
  · next unread h =>
    refine (Reading.val_andThen _ _ _ (fun right => moreDisjuncts settings (.either left right))
      fun _ _ _ => rfl).trans ?_
    rw [h]
    rfl

theorem conjunction_eq (settings : Settings) (state : State) :
    conjunction settings state = (operand settings state).andThen (moreConjuncts settings) := by
  rw [conjunction, conjunctionReading]
  exact Reading.val_andThen _ _ _ _ fun _ _ _ => rfl

theorem moreConjuncts_eq (settings : Settings) (left : Filter) (state : State) :
    moreConjuncts settings left state =
      match afterConnective? .and state.unread with
      | some unread =>
        (operand settings ⟨unread, state.depth⟩).andThen fun right =>
          moreConjuncts settings (.both left right)
      | none =>
        (joinedOperand settings state).andThen fun found next =>
          match found with
          | none => .done left next []
          | some right => moreConjuncts settings (.both left right) next := by
  rw [moreConjuncts, moreConjunctsReading]
  split
  · next unread h =>
    refine (Reading.val_andThen _ _ _ (fun right => moreConjuncts settings (.both left right))
      fun _ _ _ => rfl).trans ?_
    rw [h]
    rfl
  · next h =>
    rw [h]
    refine Reading.val_andThen _ _ _ _ fun found next _ => ?_
    cases found <;> rfl

theorem joinedOperand_eq (settings : Settings) (state : State) :
    joinedOperand settings state =
      if (skipBlanks state.unread).length = state.unread.length ∨
          endsConjunction (skipBlanks state.unread) = true then
        .done none state []
      else
        joinedReply state (skipBlanks state.unread)
          (operand settings ⟨skipBlanks state.unread, state.depth⟩) := by
  rw [joinedOperand, joinedOperandReading]
  split
  · rfl
  · rfl

theorem operand_eq (settings : Settings) (state : State) :
    operand settings state =
      match state.unread with
      | [] => .failed ⟨.noOperand none, []⟩ []
      | c :: unread =>
        if c = '(' then
          group settings state
        else
          match Polarity.ofSign? c with
          | some polarity => tagOperand polarity ⟨unread, state.depth⟩
          | none =>
            if isKeyChar c then
              pairOperand settings state
            else
              .failed ⟨.noOperand (some c), c :: unread⟩ [] := by
  obtain ⟨unread, depth⟩ := state
  rw [operand, operandReading]
  cases unread with
  | nil => rfl
  | cons c unread =>
    dsimp only
    split
    · rfl
    · split
      · rfl
      · split <;> rfl

theorem group_eq (settings : Settings) (state : State) :
    group settings state =
      match state.unread with
      | [] => .failed ⟨.noOperand none, []⟩ []
      | c :: inside =>
        if settings.maxDepth ≤ state.depth then
          .failed ⟨.tooDeep settings.maxDepth, c :: inside⟩ []
        else
          (disjunction settings ⟨skipBlanks inside, state.depth + 1⟩).andThen
            (closeGroup (c :: inside)) := by
  obtain ⟨unread, depth⟩ := state
  rw [group, groupReading]
  cases unread with
  | nil => rfl
  | cons c inside =>
    dsimp only
    split
    · rfl
    · exact Reading.val_andThen _ _ _ _ fun _ _ _ => rfl

/-! ## Every reader takes up text -/

theorem length_disjunction_lt {settings : Settings} {state next : State} {filter : Filter}
    {log : Log} (h : disjunction settings state = .done filter next log) :
    next.unread.length < state.unread.length := by
  have := (disjunctionReading settings state).property
  rwa [show (disjunctionReading settings state).val = _ from h] at this

theorem length_conjunction_lt {settings : Settings} {state next : State} {filter : Filter}
    {log : Log} (h : conjunction settings state = .done filter next log) :
    next.unread.length < state.unread.length := by
  have := (conjunctionReading settings state).property
  rwa [show (conjunctionReading settings state).val = _ from h] at this

theorem length_operand_lt {settings : Settings} {state next : State} {filter : Filter}
    {log : Log} (h : operand settings state = .done filter next log) :
    next.unread.length < state.unread.length := by
  have := (operandReading settings state).property
  rwa [show (operandReading settings state).val = _ from h] at this

end FilterQuery
