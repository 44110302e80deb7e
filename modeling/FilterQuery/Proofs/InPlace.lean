import FilterQuery.Proofs.Places
import FilterQuery.Proofs.Visits

/-!
# Reading in place

The readers hand a state on, and one that gives up goes back to the state that it was given. Here
the same texts are read with a single desk that all readers change: a cursor, a counter of the
groups that are open, kept in a machine word, and the log. Nothing is put back by itself. A reader
that fails leaves the desk as it is at that moment, and one that goes back sets the cursor and no
more.

* `Desk`: what is changed. `Act`, `Course`: something that is done at a desk, and what comes of it.
* `Event`: what happens in the course of an act. Readers that are asked and that reply are noted
  with the desk at that time, and so is every change of the counter.
* `Act.move_bind` and the lemmas after it: how acts start.
* `Reader.body`: what each reader does, given the readers that it asks. `perform` ties the knot,
  with a bound on how deep the readers ask each other.
* `closeIn_cases`, `operand_body_cases`, `joinedOperand_body_cases`: the ways in which a reader goes
  about it.
* `Act.Quiet`: acts that count nothing and ask nobody. `operand_body_quiet`: reading an operand is
  one of them, where no group starts.
* `Settings.course`, `Settings.parseInPlace`: reading whole texts.
-/

namespace FilterQuery

open Text

/-! ## Desks, courses and acts -/

/-- What the readers change while they go through a text. -/
structure Desk where
  /-- The place up to which the text is read. -/
  cursor : Cursor
  /-- The number of open groups, as the readers count them. -/
  counter : UInt64
  /-- The records that were left. -/
  log : Log
  deriving DecidableEq

/-- Why an act has no value. -/
inductive Stop where
  /-- The text is malformed. -/
  | error (error : SyntaxError)
  /-- The readers would have to ask each other more deeply than is allowed. -/
  | unfinished
  deriving DecidableEq

/-- What a reader finds. -/
abbrev Reader.Value : Reader → Type
  | .joinedOperand => Option Filter
  | _ => Filter

/-- What happens while a text is read. -/
inductive Event where
  /-- A reader is asked. -/
  | asked (reader : Reader) (entry : Desk)
  /-- A reader that was asked replies. -/
  | replied (reader : Reader) (entry : Desk) (outcome : Except Stop reader.Value) (exit : Desk)
  /-- It was tried to take a connective. -/
  | tried (connective : Connective) (entry : Desk) (taken : Bool) (exit : Desk)
  /-- A group opens, and the counter goes up. -/
  | opened (counter : UInt64)
  /-- A group closes, and the counter goes down. -/
  | closed (counter : UInt64)

/-- What comes of an act. -/
structure Course (α : Type) where
  /-- The value, or why there is none. -/
  outcome : Except Stop α
  /-- The desk as it was left. -/
  desk : Desk
  /-- What happened, in order of time. -/
  events : List Event

/-- Something that is done at a desk. -/
def Act (α : Type) := Desk → Course α

variable {α β : Type}

/-- The course that goes on with a second act where the first one has found a value. -/
def Course.andThen (first : Course α) (next : α → Act β) : Course β :=
  match first.outcome with
  | .ok value =>
    { next value first.desk with events := first.events ++ (next value first.desk).events }
  | .error stop => ⟨.error stop, first.desk, first.events⟩

instance : Monad Act where
  pure value := fun desk => ⟨.ok value, desk, []⟩
  bind act next := fun desk => (act desk).andThen next

theorem Act.pure_eq (value : α) (desk : Desk) : (pure value : Act α) desk = ⟨.ok value, desk, []⟩ :=
  rfl

theorem Act.bind_eq (act : Act α) (next : α → Act β) (desk : Desk) :
    (act >>= next) desk = (act desk).andThen next := rfl

namespace Act

/-- Uses the cursor and moves it. -/
def move (f : Cursor → α × Cursor) : Act α := fun desk =>
  ⟨.ok (f desk.cursor).1, { desk with cursor := (f desk.cursor).2 }, []⟩

/-- Uses the cursor and leaves it where it is. -/
def look (f : Cursor → α) : Act α := fun desk =>
  ⟨.ok (f desk.cursor), desk, []⟩

/-- Sets the cursor to a byte offset. -/
def goTo (position : Nat) : Act Unit :=
  move fun cursor => ((), { cursor with position := position })

/-- The number of open groups, as it was counted. -/
def depth : Act Nat := fun desk =>
  ⟨.ok desk.counter.toNat, desk, []⟩

/-- Leaves records. -/
def write (records : Log) : Act Unit := fun desk =>
  ⟨.ok (), { desk with log := desk.log ++ records }, []⟩

/-- Counts one more open group. -/
def countUp : Act Unit := fun desk =>
  ⟨.ok (), { desk with counter := desk.counter + 1 }, [.opened desk.counter]⟩

/-- Counts one open group less. -/
def countDown : Act Unit := fun desk =>
  ⟨.ok (), { desk with counter := desk.counter - 1 }, [.closed desk.counter]⟩

/-- Comes to a stop. -/
def halt (stop : Stop) : Act α := fun desk =>
  ⟨.error stop, desk, []⟩

/-- Reports a mistake at the cursor. -/
def fail (cause : Cause) : Act α := fun desk =>
  halt (.error (cause.errorAt desk.cursor.position)) desk

/-- Does something, and goes on whatever comes of it. -/
def attempt (act : Act α) : Act (Except Stop α) := fun desk =>
  { act desk with outcome := .ok (act desk).outcome }

/-- Does what a reader does, and notes that the reader is asked and replies. -/
def asCall (reader : Reader) (act : Act reader.Value) : Act reader.Value := fun desk =>
  { act desk with
    events := .asked reader desk ::
      ((act desk).events ++ [.replied reader desk (act desk).outcome (act desk).desk]) }

section Bind

variable (next : α → Act β) (desk : Desk)

@[simp]
theorem move_bind (f : Cursor → α × Cursor) :
    (move f >>= next) desk = next (f desk.cursor).1 { desk with cursor := (f desk.cursor).2 } := rfl

@[simp]
theorem look_bind (f : Cursor → α) : (look f >>= next) desk = next (f desk.cursor) desk := rfl

@[simp]
theorem goTo_bind (position : Nat) (next : Unit → Act β) :
    (goTo position >>= next) desk =
      next () { desk with cursor := { desk.cursor with position := position } } := rfl

@[simp]
theorem depth_bind (next : Nat → Act β) :
    (depth >>= next) desk = next desk.counter.toNat desk := rfl

@[simp]
theorem write_bind (records : Log) (next : Unit → Act β) :
    (write records >>= next) desk = next () { desk with log := desk.log ++ records } := rfl

@[simp]
theorem countUp_bind (next : Unit → Act β) :
    (countUp >>= next) desk =
      { next () { desk with counter := desk.counter + 1 } with
        events := .opened desk.counter ::
          (next () { desk with counter := desk.counter + 1 }).events } := rfl

@[simp]
theorem countDown_bind (next : Unit → Act β) :
    (countDown >>= next) desk =
      { next () { desk with counter := desk.counter - 1 } with
        events := .closed desk.counter ::
          (next () { desk with counter := desk.counter - 1 }).events } := rfl

@[simp]
theorem attempt_bind (act : Act α) (next : Except Stop α → Act β) :
    (attempt act >>= next) desk =
      { next (act desk).outcome (act desk).desk with
        events := (act desk).events ++ (next (act desk).outcome (act desk).desk).events } := rfl

end Bind

end Act

open Act

/-! ## Leaves in place -/

/-- Takes a connective with the blanks around it, or goes back to where it started. -/
def eatConnective (connective : Connective) : Act Bool := do
  let start ← look Cursor.position
  let _ ← move Cursor.skipBlanks
  if ← move (Cursor.eatWord connective.word.toList) then
    let _ ← move Cursor.skipBlanks
    return true
  else
    goTo start
    return false

/-- Takes a connective, and notes it. -/
def tryConnective (connective : Connective) : Act Bool := fun desk =>
  let course := eatConnective connective desk
  { course with
    events := [.tried connective desk (course.outcome.toOption.getD false) course.desk] }

/-- A connective that is not there leaves the desk exactly as it was. -/
theorem eatConnective_eq (connective : Connective) (desk : Desk) :
    eatConnective connective desk =
      if desk.cursor.skipBlanks.2.atWord connective.word.toList then
        ⟨.ok true, { desk with cursor :=
          (desk.cursor.skipBlanks.2.advance (byteLength connective.word.toList)).skipBlanks.2 }, []⟩
      else
        ⟨.ok false, desk, []⟩ := by
  rw [eatConnective, look_bind, move_bind, move_bind]
  simp only [Cursor.eatWord]
  split
  · simp only [if_pos, move_bind]
    rfl
  · simp only [Bool.false_eq_true, if_false, goTo_bind]
    rfl

theorem tryConnective_eq (connective : Connective) (desk : Desk) :
    ∃ taken exit, tryConnective connective desk =
        ⟨.ok taken, exit, [.tried connective desk taken exit]⟩ ∧
      eatConnective connective desk = ⟨.ok taken, exit, []⟩ := by
  rw [tryConnective, eatConnective_eq]
  split
  · exact ⟨true, _, rfl, rfl⟩
  · exact ⟨false, _, rfl, rfl⟩

/-- Takes the run of a class. An empty run is a mistake. -/
def runIn (p : Char → Bool) (cause : Cause) : Act String := do
  let run ← move (Cursor.takeWhile p)
  if run.isEmpty then fail cause else return String.ofList run

/-- Takes a value. -/
def valueIn : Act String := do
  if (← look Cursor.peek) = some quoteMark then
    match ← move Cursor.quoted with
    | .ok body => return String.ofList body
    | .error error => halt (.error error)
  else
    runIn isValueChar .noValue

/-- Takes an attribute pair. -/
def pairIn (settings : Settings) : Act Filter := do
  let name ← runIn isKeyChar .noKey
  let key := Key.ofRun name
  if ← move (Cursor.eat ':') then
    let value ← valueIn
    write (pairLog settings key value)
    return .pair key value
  else
    fail (.noSeparator key.name)

/-- Takes a tag, with its sign. -/
def tagIn (polarity : Polarity) : Act Filter := do
  let _ ← move Cursor.next
  let name ← runIn isTagChar (.noTagName polarity)
  write [.tag polarity name]
  return .tag polarity name

/-! ## Readers in place -/

/-- Whether a stop only means that blanks in front of the place do not join anything. -/
def Stop.isNoOperand : Stop → Bool
  | .error mistake => mistake.kind == .unrecognizedOperand || mistake.kind == .missingSeparator
  | .unfinished => false

/-- Takes an operand. If there is none, goes back to a byte offset. -/
def orGoBack (start : Nat) (act : Act Filter) : Act (Option Filter) := do
  match ← attempt act with
  | .ok right => return some right
  | .error stop =>
    if stop.isNoOperand then
      goTo start
      return none
    else
      halt stop

theorem orGoBack_eq (start : Nat) (act : Act Filter) (desk : Desk) :
    orGoBack start act desk =
      match (act desk).outcome with
      | .ok right => ⟨.ok (some right), (act desk).desk, (act desk).events⟩
      | .error stop =>
        if stop.isNoOperand then
          ⟨.ok none, { (act desk).desk with
            cursor := { (act desk).desk.cursor with position := start } }, (act desk).events⟩
        else
          ⟨.error stop, (act desk).desk, (act desk).events⟩ := by
  rw [orGoBack, attempt_bind]
  rcases (act desk).outcome with stop | right
  · by_cases hstop : stop.isNoOperand = true
    · simp only [if_pos hstop, goTo_bind, pure_eq, List.append_nil]
    · simp [hstop, halt]
  · simp [pure_eq]

/-- Takes the closing parenthesis of the group that opened at the byte offset `opening`. -/
def closeIn (opening : Nat) (inner : Filter) : Act Filter := do
  let _ ← move Cursor.skipBlanks
  if ← move (Cursor.eat ')') then
    countDown
    return inner
  else
    let position ← look Cursor.position
    match ← look Cursor.peek with
    | some found =>
      if (← look Cursor.unread).contains ')' then
        fail (.trailingInGroup found)
      else
        fail (.openGroup (position - opening))
    | none => fail (.openGroup (position - opening))

/-- What a reader does, given the readers that it may ask. -/
def Reader.body (settings : Settings) (ask : (reader : Reader) → Act reader.Value) :
    (reader : Reader) → Act reader.Value
  | .disjunction => do
    let left ← ask .conjunction
    ask (.moreDisjuncts left)
  | .moreDisjuncts left => do
    if ← tryConnective .or then
      let right ← ask .conjunction
      ask (.moreDisjuncts (.either left right))
    else
      return left
  | .conjunction => do
    let left ← ask .operand
    ask (.moreConjuncts left)
  | .moreConjuncts left => do
    if ← tryConnective .and then
      let right ← ask .operand
      ask (.moreConjuncts (.both left right))
    else
      match ← ask .joinedOperand with
      | some right => ask (.moreConjuncts (.both left right))
      | none => return left
  | .joinedOperand => do
    let start ← look Cursor.position
    let skipped ← move Cursor.skipBlanks
    let ends ← look fun cursor =>
      cursor.atEnd || cursor.peek == some ')' || cursor.atWord Connective.or.word.toList
    if skipped == 0 || ends then
      goTo start
      return none
    else if (← look Cursor.peek) = some '(' then
      let right ← ask .group
      return some right
    else
      orGoBack start (ask .operand)
  | .operand => do
    match ← look Cursor.peek with
    | none => fail (.noOperand none)
    | some c =>
      if c = '(' then
        ask .group
      else
        match Polarity.ofSign? c with
        | some polarity => tagIn polarity
        | none => if isKeyChar c then pairIn settings else fail (.noOperand (some c))
  | .group => do
    let opening ← look Cursor.position
    if settings.maxDepth ≤ (← depth) then
      fail (.tooDeep settings.maxDepth)
    else
      let _ ← move Cursor.next
      countUp
      let _ ← move Cursor.skipBlanks
      let inner ← ask .disjunction
      closeIn opening inner

/-- What a reader does, if the readers do not ask each other more than `bound` deep. -/
def perform (settings : Settings) : Nat → (reader : Reader) → Act reader.Value
  | 0, _ => halt .unfinished
  | bound + 1, reader => asCall reader (reader.body settings (perform settings bound))

/-! ## How a reader goes about it -/

/-- Behind blanks a group is closed, or everything stops. -/
theorem closeIn_cases (opening : Nat) (inner : Filter) (desk : Desk) :
    closeIn opening inner desk = ⟨.ok inner, ⟨(desk.cursor.skipBlanks.2.eat ')').2,
        desk.counter - 1, desk.log⟩, [.closed desk.counter]⟩ ∨
      ∃ stop, closeIn opening inner desk = ⟨.error stop, ⟨(desk.cursor.skipBlanks.2.eat ')').2,
        desk.counter, desk.log⟩, []⟩ := by
  rw [closeIn, move_bind, move_bind]
  by_cases hfound : (desk.cursor.skipBlanks.2.eat ')').1 = true
  · refine .inl ?_
    simp only [if_pos hfound, countDown_bind, pure_eq]
  · simp only [if_neg hfound, look_bind]
    rcases (desk.cursor.skipBlanks.2.eat ')').2.peek with _ | found
    · exact .inr ⟨_, rfl⟩
    · simp only [look_bind]
      by_cases hmem : (desk.cursor.skipBlanks.2.eat ')').2.unread.contains ')' = true
      · simp only [if_pos hmem]
        exact .inr ⟨_, rfl⟩
      · simp only [if_neg hmem]
        exact .inr ⟨_, rfl⟩

section Cases

variable (settings : Settings) (ask : (reader : Reader) → Act reader.Value)

/-- Where no group starts an operand is missing, or it is a pair or a tag. -/
theorem operand_body_cases {desk : Desk} (h : desk.cursor.peek ≠ some '(') :
    (∃ cause, Reader.operand.body settings ask desk = fail cause desk) ∨
      Reader.operand.body settings ask desk = pairIn settings desk ∨
      ∃ polarity, Reader.operand.body settings ask desk = tagIn polarity desk := by
  rw [Reader.body, look_bind]
  rcases hpeek : desk.cursor.peek with _ | c
  · exact .inl ⟨_, rfl⟩
  · have hc : c ≠ '(' := fun heq => h (hpeek.trans (congrArg some heq))
    simp only [if_neg hc]
    rcases Polarity.ofSign? c with _ | polarity
    · by_cases hkey : isKeyChar c = true
      · refine .inr (.inl ?_)
        simp only [if_pos hkey]
      · simp only [if_neg hkey]
        exact .inl ⟨_, rfl⟩
    · exact .inr (.inr ⟨polarity, rfl⟩)

/-- An operand that may be joined is not there, or it is a group behind blanks, or what else is
behind them is tried. -/
theorem joinedOperand_body_cases (entry : Desk) :
    Reader.joinedOperand.body settings ask entry = ⟨.ok none, entry, []⟩ ∨
      ∃ desk : Desk, desk.counter = entry.counter ∧
        entry.cursor.position < desk.cursor.position ∧
        (desk.cursor.peek = some '(' ∧ Reader.joinedOperand.body settings ask entry =
            (ask .group >>= fun right => pure (some right)) desk ∨
          desk.cursor.peek ≠ some '(' ∧ Reader.joinedOperand.body settings ask entry =
            orGoBack entry.cursor.position (ask .operand) desk) := by
  rw [Reader.body, look_bind, move_bind, look_bind]
  split
  · exact .inl rfl
  · next hends =>
    have hskipped : entry.cursor.skipBlanks.1 ≠ 0 := by
      intro hzero
      simp [hzero] at hends
    have hlt : entry.cursor.position < entry.cursor.skipBlanks.2.position :=
      Nat.lt_add_of_pos_right (Nat.pos_of_ne_zero hskipped)
    refine .inr ⟨⟨entry.cursor.skipBlanks.2, entry.counter, entry.log⟩, rfl, hlt, ?_⟩
    rw [look_bind]
    split
    · next hpeek => exact .inl ⟨hpeek, rfl⟩
    · next hpeek => exact .inr ⟨hpeek, rfl⟩

end Cases

/-! ## Acts that count nothing -/

/-- The act leaves the counter as it is, and nobody is asked. -/
def Act.Quiet (act : Act α) : Prop :=
  ∀ desk, (act desk).desk.counter = desk.counter ∧ (act desk).events = []

namespace Act

theorem quiet_pure (value : α) : Quiet (pure value) :=
  fun _ => ⟨rfl, rfl⟩

theorem quiet_move (f : Cursor → α × Cursor) : Quiet (move f) :=
  fun _ => ⟨rfl, rfl⟩

theorem quiet_look (f : Cursor → α) : Quiet (look f) :=
  fun _ => ⟨rfl, rfl⟩

theorem quiet_write (records : Log) : Quiet (write records) :=
  fun _ => ⟨rfl, rfl⟩

theorem quiet_halt (stop : Stop) : Quiet (halt (α := α) stop) :=
  fun _ => ⟨rfl, rfl⟩

theorem quiet_fail (cause : Cause) : Quiet (fail (α := α) cause) :=
  fun _ => ⟨rfl, rfl⟩

theorem Quiet.bind {act : Act α} {next : α → Act β} (h : act.Quiet)
    (hnext : ∀ value, (next value).Quiet) : (act >>= next).Quiet := by
  intro desk
  obtain ⟨hcounter, hevents⟩ := h desk
  rw [bind_eq, Course.andThen]
  split
  · next value _ =>
    obtain ⟨hcounter', hevents'⟩ := hnext value (act desk).desk
    exact ⟨hcounter'.trans hcounter, by simp [hevents, hevents']⟩
  · exact ⟨hcounter, hevents⟩

end Act

theorem runIn_quiet (p : Char → Bool) (cause : Cause) : (runIn p cause).Quiet := by
  refine (quiet_move _).bind fun run => ?_
  split
  · exact quiet_fail cause
  · exact quiet_pure _

theorem valueIn_quiet : valueIn.Quiet := by
  refine (quiet_look _).bind fun c => ?_
  split
  · refine (quiet_move _).bind fun quoted => ?_
    split
    · exact quiet_pure _
    · exact quiet_halt _
  · exact runIn_quiet _ _

theorem pairIn_quiet (settings : Settings) : (pairIn settings).Quiet := by
  refine (runIn_quiet _ _).bind fun name => (quiet_move _).bind fun found => ?_
  split
  · exact valueIn_quiet.bind fun value => (quiet_write _).bind fun _ => quiet_pure _
  · exact quiet_fail _

theorem tagIn_quiet (polarity : Polarity) : (tagIn polarity).Quiet :=
  (quiet_move _).bind fun _ => (runIn_quiet _ _).bind fun _ =>
    (quiet_write _).bind fun _ => quiet_pure _

/-- Where no group starts, the reader of operands asks nobody. -/
theorem operand_body_quiet (settings : Settings) (ask : (reader : Reader) → Act reader.Value)
    {desk : Desk} (h : desk.cursor.peek ≠ some '(') :
    (Reader.operand.body settings ask desk).desk.counter = desk.counter ∧
      (Reader.operand.body settings ask desk).events = [] := by
  obtain ⟨cause, hbody⟩ | hbody | ⟨polarity, hbody⟩ := operand_body_cases settings ask h <;>
    rw [hbody]
  · exact quiet_fail cause desk
  · exact pairIn_quiet settings desk
  · exact tagIn_quiet polarity desk

/-! ## Whole texts in place -/

/-- Ends reading behind a complete filter. -/
def endIn (filter : Filter) : Act Filter := do
  let _ ← move Cursor.skipBlanks
  match ← look Cursor.peek with
  | none => return filter
  | some c => if c = ')' then fail .strayClosing else fail (.trailing c)

theorem endIn_quiet (filter : Filter) : (endIn filter).Quiet := by
  refine (quiet_move _).bind fun _ => (quiet_look _).bind fun c => ?_
  rcases c with _ | c
  · exact quiet_pure filter
  · dsimp only
    split
    · exact quiet_fail _
    · exact quiet_fail _

/-- Reads the filter that a whole text is. -/
def readText (settings : Settings) (bound : Nat) : Act Filter := do
  let _ ← move Cursor.skipBlanks
  let filter ← perform settings bound .disjunction
  endIn filter

/-- The desk at the start of a text. -/
def Desk.start (input : String) : Desk :=
  ⟨.start input, 0, []⟩

/-- The course of reading a text. The readers may ask each other four times as deep as the text is
long. -/
def Settings.course (settings : Settings) (input : String) : Course Filter :=
  readText settings (4 * input.toList.length + 4) (.start input)

/-- What becomes of a text that is read in place, unless its course is unfinished. A text that is
too long is not read. -/
def Settings.parseInPlace (settings : Settings) (input : String) : Option Outcome :=
  match settings.exceededLimit (byteLength input.toList) with
  | some limit => some ⟨.error (Cause.errorAt (.tooLong limit) 0), []⟩
  | none =>
    let course := settings.course input
    match course.outcome with
    | .ok filter => some ⟨.ok filter, course.desk.log⟩
    | .error (.error error) => some ⟨.error error, course.desk.log ++ [.failure input error]⟩
    | .error .unfinished => none

end FilterQuery
