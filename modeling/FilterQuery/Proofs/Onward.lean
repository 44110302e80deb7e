import FilterQuery.Proofs.InPlace

/-!
# Reading goes on

The cursor is put back at two places only, where a connective is not there and where an operand is
given up, and then to where the same reader has started. So no reader leaves it further back than it
has found it, and who finds something has moved it on. None of this depends on the text.

* `Act.Forward`, `Act.TakesUp`: what this says of acts. `pairIn_takesUp`, `tagIn_takesUp`: so it is
  with leaves.
* `Request.Above`: where a reader may ask another one, namely further on or, in the same place, one
  of lower rank. `pendingAfter`: the requests that wait for a reply.
* `Nests`: requests are only made below all that wait, and the last one is replied to first, by a
  reader that has gone on. `nests_append`: what happens after something else.
* `Course.Onward`: the course nests, and ends further on. `Course.Onward.bind`,
  `Course.Onward.asCall`: one act after another, and a reader that is asked and replies.
* `body_onward`: what a reader does, given the readers that it asks. `perform_onward`: readers that
  ask each other.
-/

namespace FilterQuery

open Text Act

/-! ## Cursors that move on -/

namespace Cursor

variable (cursor : Cursor)

theorem position_takeWhile_le (p : Char → Bool) :
    cursor.position ≤ (cursor.takeWhile p).2.position :=
  Nat.le_add_right _ _

theorem position_skipBlanks_le : cursor.position ≤ cursor.skipBlanks.2.position :=
  cursor.position_takeWhile_le isBlank

theorem position_next_le : cursor.position ≤ cursor.next.2.position := by
  unfold next
  split
  · exact Nat.le_add_right _ _
  · exact Nat.le_refl _

theorem position_next_lt {c : Char} (h : cursor.peek = some c) :
    cursor.position < cursor.next.2.position := by
  rw [next, h]
  exact Nat.lt_add_of_pos_right c.utf8Size_pos

theorem position_eat_le (c : Char) : cursor.position ≤ (cursor.eat c).2.position := by
  unfold eat
  split
  · exact Nat.le_add_right _ _
  · exact Nat.le_refl _

theorem position_quoted_le : cursor.position ≤ cursor.quoted.2.position := by
  have hopen := cursor.position_eat_le quoteMark
  have hbody := (cursor.eat quoteMark).2.position_takeWhile_le (· != quoteMark)
  have hclose :=
    ((cursor.eat quoteMark).2.takeWhile (· != quoteMark)).2.position_eat_le quoteMark
  unfold quoted
  split
  · exact Nat.le_refl _
  · next inside hinside =>
    rw [hinside] at hopen hbody hclose
    dsimp only at hopen hbody hclose ⊢
    split
    · exact Nat.le_trans hopen hbody
    · next rest hrest =>
      rw [hrest] at hclose
      exact Nat.le_trans (Nat.le_trans hopen hbody) hclose

end Cursor

/-! ## Acts that move on -/

section Acts

variable {α β : Type}

/-- The act does not leave the cursor further back than it has found it. -/
def Act.Forward (act : Act α) : Prop :=
  ∀ desk, desk.cursor.position ≤ (act desk).desk.cursor.position

/-- The act goes forward, and leaves the cursor further on where it finds something. -/
structure Act.TakesUp (act : Act α) : Prop where
  forward : act.Forward
  further : ∀ desk value, (act desk).outcome = .ok value →
    desk.cursor.position < (act desk).desk.cursor.position

namespace Act

theorem forward_pure (value : α) : Forward (pure value) :=
  fun _ => Nat.le_refl _

theorem forward_move {f : Cursor → α × Cursor}
    (h : ∀ cursor, cursor.position ≤ (f cursor).2.position) : Forward (move f) :=
  fun desk => h desk.cursor

theorem forward_look (f : Cursor → α) : Forward (look f) :=
  fun _ => Nat.le_refl _

theorem forward_write (records : Log) : Forward (write records) :=
  fun _ => Nat.le_refl _

theorem forward_halt (stop : Stop) : Forward (halt (α := α) stop) :=
  fun _ => Nat.le_refl _

theorem forward_fail (cause : Cause) : Forward (fail (α := α) cause) :=
  fun _ => Nat.le_refl _

variable {act : Act α} {next : α → Act β}

theorem Forward.bind (h : act.Forward) (hnext : ∀ value, (next value).Forward) :
    (act >>= next).Forward := by
  intro desk
  rw [bind_eq, Course.andThen]
  split
  · next value _ => exact Nat.le_trans (h desk) (hnext value _)
  · exact h desk

theorem TakesUp.bind (h : act.TakesUp) (hnext : ∀ value, (next value).Forward) :
    (act >>= next).TakesUp := by
  refine ⟨h.forward.bind hnext, fun desk value hvalue => ?_⟩
  rw [bind_eq, Course.andThen] at hvalue ⊢
  rcases houtcome : (act desk).outcome with stop | found
  · rw [houtcome] at hvalue
    cases hvalue
  · exact Nat.lt_of_lt_of_le (h.further desk found houtcome) (hnext found _)

theorem Forward.bind_takesUp (h : act.Forward) (hnext : ∀ value, (next value).TakesUp) :
    (act >>= next).TakesUp := by
  refine ⟨h.bind fun value => (hnext value).forward, fun desk value hvalue => ?_⟩
  rw [bind_eq, Course.andThen] at hvalue ⊢
  rcases houtcome : (act desk).outcome with stop | found
  · rw [houtcome] at hvalue
    cases hvalue
  · rw [houtcome] at hvalue
    exact Nat.lt_of_le_of_lt (h desk) ((hnext found).further _ value hvalue)

end Act

end Acts

theorem runIn_takesUp (p : Char → Bool) (cause : Cause) : (runIn p cause).TakesUp := by
  constructor
  · refine (forward_move fun cursor => cursor.position_takeWhile_le p).bind fun run => ?_
    split
    · exact forward_fail cause
    · exact forward_pure _
  · intro desk value hvalue
    rw [runIn, move_bind] at hvalue ⊢
    by_cases hrun : (desk.cursor.takeWhile p).1.isEmpty = true
    · rw [if_pos hrun] at hvalue
      cases hvalue
    · rw [if_neg hrun]
      rw [List.isEmpty_iff, ← byteLength_eq_zero_iff] at hrun
      exact Nat.lt_add_of_pos_right (Nat.pos_of_ne_zero hrun)

theorem valueIn_forward : valueIn.Forward := by
  refine (forward_look _).bind fun c => ?_
  split
  · refine (forward_move Cursor.position_quoted_le).bind fun quoted => ?_
    split
    · exact forward_pure _
    · exact forward_halt _
  · exact (runIn_takesUp _ _).forward

theorem pairIn_takesUp (settings : Settings) : (pairIn settings).TakesUp := by
  refine (runIn_takesUp _ _).bind fun name => ?_
  refine (forward_move fun cursor => cursor.position_eat_le ':').bind fun found => ?_
  split
  · exact valueIn_forward.bind fun value => (forward_write _).bind fun _ => forward_pure _
  · exact forward_fail _

theorem tagIn_takesUp (polarity : Polarity) : (tagIn polarity).TakesUp :=
  (forward_move Cursor.position_next_le).bind_takesUp fun _ =>
    (runIn_takesUp _ _).bind fun _ => (forward_write _).bind fun _ => forward_pure _

theorem endIn_forward (filter : Filter) : (endIn filter).Forward := by
  refine (forward_move Cursor.position_skipBlanks_le).bind fun _ => ?_
  refine (forward_look _).bind fun c => ?_
  rcases c with _ | c
  · exact forward_pure filter
  · dsimp only
    split
    · exact forward_fail _
    · exact forward_fail _

/-! ## Requests that wait for a reply -/

/-- A reader that is asked, and the desk at which it is asked. -/
structure Request where
  /-- The reader. -/
  reader : Reader
  /-- The desk as it finds it. -/
  entry : Desk

/-- The inner request is made further on than the outer one, or in the same place of a reader that
stands lower. -/
def Request.Above (outer inner : Request) : Prop :=
  outer.entry.cursor.position < inner.entry.cursor.position ∨
    outer.entry.cursor.position = inner.entry.cursor.position ∧
      inner.reader.rank < outer.reader.rank

theorem Request.Above.trans {outer middle inner : Request} (h : outer.Above middle)
    (h' : middle.Above inner) : outer.Above inner := by
  unfold Above at h h' ⊢
  omega

/-- What the last one asks for is below all that wait. -/
theorem Request.Above.push {pending : List Request} {last inner : Request}
    (hbelow : ∀ request ∈ pending, request.Above last) (h : last.Above inner) :
    ∀ request ∈ last :: pending, request.Above inner :=
  List.forall_mem_cons.mpr ⟨h, fun request hmem => (hbelow request hmem).trans h⟩

/-- The requests that wait behind an event. A request comes on top of those that wait already, and
is taken from there when the reader replies. -/
def Event.onto (pending : List Request) : Event → List Request
  | asked reader entry => ⟨reader, entry⟩ :: pending
  | replied _ _ _ _ => pending.tail
  | _ => pending

/-- The requests that wait behind what has happened, the last one first. -/
def pendingAfter (pending : List Request) (events : List Event) : List Request :=
  events.foldl Event.onto pending

/-- What a reader finds takes up text: any filter that starts with the first thing it reads. The
readers that read on may find that nothing is left to be joined. -/
def Reader.TakesUp : (reader : Reader) → reader.Value → Prop
  | .moreDisjuncts _, _ | .moreConjuncts _, _ => False
  | .joinedOperand, found => found.isSome = true
  | .disjunction, _ | .conjunction, _ | .operand, _ | .group, _ => True

/-- What is known of an event where some requests wait for a reply. All of them are above any
further one, and the last one is replied to first. A group is asked for only where one starts.
Nothing goes back behind its start, and what takes up text goes on from there. -/
def Event.Fits (pending : List Request) : Event → Prop
  | asked reader entry => (∀ request ∈ pending, request.Above ⟨reader, entry⟩) ∧
      (reader = .group → entry.cursor.peek = some '(')
  | replied reader entry outcome exit =>
    pending.head? = some ⟨reader, entry⟩ ∧ entry.cursor.position ≤ exit.cursor.position ∧
      ∀ value, outcome = .ok value → reader.TakesUp value →
        entry.cursor.position < exit.cursor.position
  | tried _ entry taken exit => entry.cursor.position ≤ exit.cursor.position ∧
      (taken = true → entry.cursor.position < exit.cursor.position)
  | _ => True

/-- All that happens fits to the requests that wait for a reply at the time. -/
def Nests : List Request → List Event → Prop
  | _, [] => True
  | pending, event :: events => event.Fits pending ∧ Nests (event.onto pending) events

section Nests

variable {pending : List Request} {events events' : List Event}

theorem pendingAfter_append (pending : List Request) (events events' : List Event) :
    pendingAfter pending (events ++ events') =
      pendingAfter (pendingAfter pending events) events' :=
  List.foldl_append

theorem nests_append : Nests pending (events ++ events') ↔
    Nests pending events ∧ Nests (pendingAfter pending events) events' := by
  induction events generalizing pending with
  | nil => exact ⟨fun h => ⟨trivial, h⟩, And.right⟩
  | cons event events ih =>
    rw [List.cons_append, Nests, Nests, ih, and_assoc]
    rfl

theorem Nests.fits {before after : List Event} {event : Event}
    (h : Nests pending (before ++ event :: after)) :
    event.Fits (pendingAfter pending before) :=
  (nests_append.mp h).2.1

/-- What waits has been asked. -/
theorem mem_pendingAfter {request : Request} (h : request ∈ pendingAfter pending events) :
    request ∈ pending ∨ .asked request.reader request.entry ∈ events := by
  induction events generalizing pending with
  | nil => exact .inl h
  | cons event events ih =>
    rcases ih h with hmem | hmem
    · cases event with
      | asked reader entry =>
        rcases List.mem_cons.mp hmem with rfl | hmem
        · exact .inr List.mem_cons_self
        · exact .inl hmem
      | replied reader entry outcome exit => exact .inl (List.mem_of_mem_tail hmem)
      | _ => exact .inl hmem
    · exact .inr (List.mem_cons_of_mem event hmem)

end Nests

/-! ## Courses that go on -/

/-- The course starts where some requests wait for a reply, and from a position in the text. They
wait as well when it is over, all that happens fits, and the cursor is no further back; it is
further on if what was found takes up text. -/
structure Course.Onward {α : Type} (pending : List Request) (start : Nat) (takesUp : α → Prop)
    (course : Course α) : Prop where
  forward : start ≤ course.desk.cursor.position
  further : ∀ value, course.outcome = .ok value → takesUp value →
    start < course.desk.cursor.position
  nests : Nests pending course.events
  replied : pendingAfter pending course.events = pending

section Onward

variable {α β : Type} {pending : List Request} {start start' : Nat} {takesUp : α → Prop}
  {takesUp' : β → Prop} {entry : Desk}

/-- What starts further on. -/
theorem Course.Onward.from_further {course : Course α} {takesUp₀ : α → Prop}
    (h : course.Onward pending start' takesUp₀) (hlt : start < start') :
    course.Onward pending start takesUp :=
  ⟨Nat.le_trans (Nat.le_of_lt hlt) h.forward,
    fun _ _ _ => Nat.lt_of_lt_of_le hlt h.forward, h.nests, h.replied⟩

theorem Course.Onward.from_le {course : Course α} (h : course.Onward pending start' takesUp)
    (hle : start ≤ start') : course.Onward pending start takesUp :=
  ⟨Nat.le_trans hle h.forward,
    fun value hvalue htakes => Nat.lt_of_le_of_lt hle (h.further value hvalue htakes),
    h.nests, h.replied⟩

theorem onward_pure {desk : Desk} (hle : start ≤ desk.cursor.position) {value : α}
    (hlt : takesUp value → start < desk.cursor.position) :
    Course.Onward pending start takesUp ((pure value : Act α) desk) := by
  rw [pure_eq]
  refine ⟨hle, ?_, trivial, rfl⟩
  rintro _ ⟨⟩ htakes
  exact hlt htakes

/-- An act that asks nobody and takes up what it finds. -/
theorem Act.TakesUp.onward {act : Act α} (h : act.TakesUp) {desk : Desk}
    (hevents : (act desk).events = []) :
    (act desk).Onward pending desk.cursor.position takesUp := by
  refine ⟨h.forward desk, fun value hvalue _ => h.further desk value hvalue, ?_, ?_⟩
  · rw [hevents]
    trivial
  · rw [hevents]
    rfl

/-- A mistake, or any other stop. -/
theorem onward_halt (stop : Stop) {desk : Desk} (hle : start ≤ desk.cursor.position) :
    (halt stop desk).Onward pending start takesUp :=
  ⟨hle, by rintro _ ⟨⟩, trivial, rfl⟩

/-- One act after another. -/
theorem Course.Onward.bind {act : Act α} {next : α → Act β}
    (h : (act entry).Onward pending start takesUp)
    (hnext : ∀ value desk, start ≤ desk.cursor.position →
      (takesUp value → start < desk.cursor.position) →
      (next value desk).Onward pending start takesUp') :
    ((act >>= next) entry).Onward pending start takesUp' := by
  rw [Act.bind_eq, Course.andThen]
  rcases houtcome : (act entry).outcome with stop | value
  · exact ⟨h.forward, by simp, h.nests, h.replied⟩
  · have hsecond := hnext value (act entry).desk h.forward (h.further value houtcome)
    refine ⟨hsecond.forward, hsecond.further, nests_append.mpr ⟨h.nests, ?_⟩, ?_⟩
    · rw [h.replied]
      exact hsecond.nests
    · dsimp only
      rw [pendingAfter_append, h.replied, hsecond.replied]

/-- One more thing that happened before, which is neither that a reader is asked nor that it
replies. -/
theorem Course.Onward.noted {course : Course α} (h : course.Onward pending start takesUp)
    (event : Event) (hfits : event.Fits pending) (honto : event.onto pending = pending) :
    Course.Onward pending start takesUp { course with events := event :: course.events } := by
  refine ⟨h.forward, h.further, ⟨hfits, ?_⟩, ?_⟩
  · rw [honto]
    exact h.nests
  · rw [pendingAfter, List.foldl_cons, honto]
    exact h.replied

/-- One reader that is asked and replies. -/
theorem Course.Onward.asCall {reader : Reader} {act : Act reader.Value}
    (h : (act entry).Onward (⟨reader, entry⟩ :: pending) entry.cursor.position reader.TakesUp)
    (hbelow : ∀ request ∈ pending, request.Above ⟨reader, entry⟩)
    (hgroup : reader = .group → entry.cursor.peek = some '(') :
    (asCall reader act entry).Onward pending entry.cursor.position reader.TakesUp := by
  have hevents : (Act.asCall reader act entry).events =
      (.asked reader entry :: (act entry).events) ++
        [.replied reader entry (act entry).outcome (act entry).desk] := rfl
  have hwaiting : pendingAfter pending (.asked reader entry :: (act entry).events) =
      ⟨reader, entry⟩ :: pending := h.replied
  refine ⟨h.forward, h.further, ?_, ?_⟩
  · rw [hevents, nests_append, hwaiting]
    exact ⟨⟨⟨hbelow, hgroup⟩, h.nests⟩, ⟨rfl, h.forward, h.further⟩, trivial⟩
  · rw [hevents, pendingAfter_append, hwaiting]
    rfl

/-- The word of a connective, with the blanks around it, takes up text. -/
theorem position_word_lt (connective : Connective) (cursor : Cursor) :
    cursor.position < (cursor.skipBlanks.2.advance
      (byteLength connective.word.toList)).skipBlanks.2.position := by
  have hword : 0 < byteLength connective.word.toList := by
    cases connective <;> decide
  have hadvance : (cursor.skipBlanks.2.advance (byteLength connective.word.toList)).position =
      cursor.skipBlanks.2.position + byteLength connective.word.toList := rfl
  have hblanks := cursor.position_skipBlanks_le
  have hbehind := (cursor.skipBlanks.2.advance
    (byteLength connective.word.toList)).position_skipBlanks_le
  omega

theorem tryConnective_onward (connective : Connective) (entry : Desk) :
    (tryConnective connective entry).Onward pending entry.cursor.position (· = true) := by
  have hword := position_word_lt connective entry.cursor
  rw [tryConnective, eatConnective_eq]
  split
  · have hle := Nat.le_of_lt hword
    exact ⟨hle, fun _ _ _ => hword, ⟨⟨hle, fun _ => hword⟩, trivial⟩, rfl⟩
  · refine ⟨Nat.le_refl _, ?_, ⟨⟨Nat.le_refl _, by rintro ⟨⟩⟩, trivial⟩, rfl⟩
    rintro _ ⟨⟩ ⟨⟩

/-- An operand that is given up leaves the cursor where the blanks in front of it start. -/
theorem orGoBack_onward {act : Act Filter} {desk : Desk}
    (h : (act desk).Onward pending start fun _ => True) :
    (orGoBack start act desk).Onward pending start fun found => found.isSome = true := by
  rw [orGoBack_eq]
  rcases houtcome : (act desk).outcome with stop | right
  · dsimp only
    split
    · refine ⟨Nat.le_refl start, ?_, h.nests, h.replied⟩
      rintro _ ⟨⟩ ⟨⟩
    · exact ⟨h.forward, by simp, h.nests, h.replied⟩
  · exact ⟨h.forward, fun _ _ _ => h.further right houtcome trivial, h.nests, h.replied⟩

theorem closeIn_onward (opening : Nat) (inner : Filter) (desk : Desk) :
    (closeIn opening inner desk).Onward pending desk.cursor.position fun _ => False := by
  have hle : desk.cursor.position ≤ (desk.cursor.skipBlanks.2.eat ')').2.position :=
    Nat.le_trans desk.cursor.position_skipBlanks_le (Cursor.position_eat_le _ ')')
  rcases closeIn_cases opening inner desk with hclose | ⟨stop, hclose⟩ <;> rw [hclose]
  · exact ⟨hle, fun _ _ => False.elim, ⟨trivial, trivial⟩, rfl⟩
  · exact ⟨hle, fun _ _ => False.elim, trivial, rfl⟩

end Onward

/-! ## Readers that go on -/

/-- The readers go on, wherever they are asked below the requests that wait, a group only where one
starts. -/
def ReadsOnward (ask : (reader : Reader) → Act reader.Value) : Prop :=
  ∀ pending reader entry, (∀ request ∈ pending, Request.Above request ⟨reader, entry⟩) →
    (reader = .group → entry.cursor.peek = some '(') →
    (ask reader entry).Onward pending entry.cursor.position reader.TakesUp

section Readers

variable {settings : Settings} {ask : (reader : Reader) → Act reader.Value} {entry : Desk}
  {pending : List Request} {caller : Reader}

/-- A reader asks another one further on. -/
theorem ReadsOnward.further (h : ReadsOnward ask) (reader : Reader) (takesUp : reader.Value → Prop)
    (hbelow : ∀ request ∈ pending, request.Above ⟨caller, entry⟩) {desk : Desk}
    (hlt : entry.cursor.position < desk.cursor.position)
    (hgroup : reader = .group → desk.cursor.peek = some '(') :
    (ask reader desk).Onward (⟨caller, entry⟩ :: pending) entry.cursor.position takesUp := by
  exact (h _ reader desk (Request.Above.push hbelow (.inl hlt)) hgroup).from_further hlt

/-- A reader asks another one that stands lower, in the place where it has started. -/
theorem ReadsOnward.lower (h : ReadsOnward ask) (reader : Reader)
    (hbelow : ∀ request ∈ pending, request.Above ⟨caller, entry⟩) {desk : Desk}
    (hle : entry.cursor.position ≤ desk.cursor.position) (hrank : reader.rank < caller.rank)
    (hgroup : reader = .group → desk.cursor.peek = some '(') :
    (ask reader desk).Onward (⟨caller, entry⟩ :: pending) entry.cursor.position reader.TakesUp := by
  have habove : Request.Above ⟨caller, entry⟩ ⟨reader, desk⟩ := by
    rcases Nat.lt_or_eq_of_le hle with hlt | heq
    · exact .inl hlt
    · exact .inr ⟨heq, hrank⟩
  exact (h _ reader desk (Request.Above.push hbelow habove) hgroup).from_le hle

theorem joinedOperand_onward (hask : ReadsOnward ask)
    (hbelow : ∀ request ∈ pending, request.Above ⟨.joinedOperand, entry⟩) :
    (Reader.joinedOperand.body settings ask entry).Onward (⟨.joinedOperand, entry⟩ :: pending)
      entry.cursor.position fun found => found.isSome = true := by
  obtain hbody | ⟨desk, -, hlt, ⟨hpeek, hbody⟩ | ⟨-, hbody⟩⟩ :=
    joinedOperand_body_cases settings ask entry <;> rw [hbody]
  · exact onward_pure (Nat.le_refl _) (by simp)
  · refine (hask.further .group (fun _ => True) hbelow hlt fun _ => hpeek).bind
      fun right desk hle hright => ?_
    exact onward_pure hle fun _ => hright trivial
  · exact orGoBack_onward (hask.further .operand _ hbelow hlt (by simp))

theorem operand_onward (hask : ReadsOnward ask)
    (hbelow : ∀ request ∈ pending, request.Above ⟨.operand, entry⟩) :
    (Reader.operand.body settings ask entry).Onward (⟨.operand, entry⟩ :: pending)
      entry.cursor.position fun _ => True := by
  by_cases hpeek : entry.cursor.peek = some '('
  · rw [Reader.body, look_bind, hpeek]
    exact hask.lower .group hbelow (Nat.le_refl _) (by decide) fun _ => hpeek
  · have hevents := (operand_body_quiet settings ask hpeek).2
    obtain ⟨cause, hbody⟩ | hbody | ⟨polarity, hbody⟩ := operand_body_cases settings ask hpeek <;>
      rw [hbody] at hevents ⊢
    · exact onward_halt _ (Nat.le_refl _)
    · exact (pairIn_takesUp settings).onward hevents
    · exact (tagIn_takesUp polarity).onward hevents

theorem group_onward (hask : ReadsOnward ask)
    (hbelow : ∀ request ∈ pending, request.Above ⟨.group, entry⟩)
    (hpeek : entry.cursor.peek = some '(') :
    (Reader.group.body settings ask entry).Onward (⟨.group, entry⟩ :: pending)
      entry.cursor.position fun _ => True := by
  rw [Reader.body, look_bind, depth_bind]
  by_cases hlimit : settings.maxDepth ≤ entry.counter.toNat
  · simp only [if_pos hlimit]
    exact onward_halt _ (Nat.le_refl _)
  · simp only [if_neg hlimit, move_bind, countUp_bind]
    let opened : Desk := ⟨entry.cursor.next.2.skipBlanks.2, entry.counter + 1, entry.log⟩
    have hlt : entry.cursor.position < opened.cursor.position :=
      Nat.lt_of_lt_of_le (entry.cursor.position_next_lt hpeek) (Cursor.position_skipBlanks_le _)
    have hinside : ((ask .disjunction >>= closeIn entry.cursor.position) opened).Onward
        (⟨.group, entry⟩ :: pending) entry.cursor.position fun _ => True := by
      refine (hask.further .disjunction (fun _ => True) hbelow hlt (by simp)).bind
        fun inner desk hle hread => ?_
      exact (closeIn_onward _ inner desk).from_further (hread trivial)
    exact hinside.noted (.opened entry.counter) trivial rfl

/-- What a reader does goes on, given the readers that it asks. -/
theorem body_onward (hask : ReadsOnward ask) {reader : Reader}
    (hbelow : ∀ request ∈ pending, request.Above ⟨reader, entry⟩)
    (hgroup : reader = .group → entry.cursor.peek = some '(') :
    (reader.body settings ask entry).Onward (⟨reader, entry⟩ :: pending) entry.cursor.position
      reader.TakesUp := by
  cases reader with
  | disjunction =>
    refine (hask.lower .conjunction hbelow (Nat.le_refl _) (by decide) (by simp)).bind
      fun left desk hle hread => ?_
    exact hask.further (.moreDisjuncts left) _ hbelow (hread trivial) (by simp)
  | conjunction =>
    refine (hask.lower .operand hbelow (Nat.le_refl _) (by decide) (by simp)).bind
      fun left desk hle hread => ?_
    exact hask.further (.moreConjuncts left) _ hbelow (hread trivial) (by simp)
  | moreDisjuncts left =>
    refine (tryConnective_onward .or entry).bind fun taken desk hle hword => ?_
    cases taken with
    | false => exact onward_pure hle False.elim
    | true =>
      refine (hask.further .conjunction (fun _ => True) hbelow (hword rfl) (by simp)).bind
        fun right desk hle hread => ?_
      exact hask.further (.moreDisjuncts (.either left right)) _ hbelow (hread trivial) (by simp)
  | moreConjuncts left =>
    refine (tryConnective_onward .and entry).bind fun taken desk hle hword => ?_
    cases taken with
    | true =>
      refine (hask.further .operand (fun _ => True) hbelow (hword rfl) (by simp)).bind
        fun right desk hle hread => ?_
      exact hask.further (.moreConjuncts (.both left right)) _ hbelow (hread trivial) (by simp)
    | false =>
      refine (hask.lower .joinedOperand hbelow hle Nat.zero_lt_one (by simp)).bind
        fun found desk hle hread => ?_
      cases found with
      | none => exact onward_pure hle False.elim
      | some right =>
        exact hask.further (.moreConjuncts (.both left right)) _ hbelow (hread rfl) (by simp)
  | joinedOperand => exact joinedOperand_onward hask hbelow
  | operand => exact operand_onward hask hbelow
  | group => exact group_onward hask hbelow (hgroup rfl)

end Readers

/-- The readers go on, however deeply they may ask each other. -/
theorem perform_onward (settings : Settings) (bound : Nat) :
    ReadsOnward (perform settings bound) := by
  induction bound with
  | zero => exact fun _ _ _ _ _ => onward_halt .unfinished (Nat.le_refl _)
  | succ bound ih =>
    intro pending reader entry hbelow hgroup
    exact (body_onward ih hbelow hgroup).asCall hbelow hgroup

/-- Reading a text goes on, and at last nothing waits for a reply. -/
theorem course_onward (settings : Settings) (input : String) :
    (settings.course input).Onward [] 0 fun _ => True := by
  rw [Settings.course, readText, move_bind]
  refine ((perform_onward settings _ [] .disjunction _ (by simp) (by simp)).from_le
    (Nat.zero_le _)).bind fun filter desk hle hread => ?_
  have hend : (endIn filter desk).events = [] := (endIn_quiet filter desk).2
  refine ⟨Nat.zero_le _, fun _ _ _ => ?_, ?_, ?_⟩
  · exact Nat.lt_of_lt_of_le (hread trivial) (endIn_forward filter desk)
  · rw [hend]
    trivial
  · rw [hend]
    rfl

end FilterQuery
