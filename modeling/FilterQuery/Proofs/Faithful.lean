import FilterQuery.Proofs.Acceptance
import FilterQuery.Proofs.InPlace

/-!
# Reading in place finds the same

What a reader replies in a state is what it comes to at a desk that is in that state, and the
readers that it asks on the way are the ones that are listed for it.

* `Desk.At`: the desk is in a state of reading a text. The lemmas after it say what its cursor does.
* `Course.Follows`: a course comes to a reply, and so does everything that happens in it.
  `Course.Follows.bind`, `Course.Follows.onward`: one act after another.
* `pairIn_follows`, `tagIn_follows`: attribute pairs and tags. `body_follows`: what a reader does,
  if the readers that it asks do as they should (`Answers`).
* `perform_answers`: readers that ask each other do, by induction on how deeply they may.
* `parseInPlace_eq`: so whole texts come to the same outcome, and the bound is never met.
-/

namespace FilterQuery

open Text Act

/-! ## Desks in a state -/

/-- The desk is in a state of reading a text. -/
structure Desk.At (text : List Char) (state : State) (desk : Desk) : Prop where
  cursor : ∃ before, text = before ++ state.unread ∧
    desk.cursor = Place.cursor ⟨before, state.unread⟩
  counter : desk.counter.toNat = state.depth

namespace Desk.At

variable {text run rest : List Char} {state : State} {desk : Desk}

theorem unread_eq (h : desk.At text state) : desk.cursor.unread = state.unread := by
  obtain ⟨before, -, hcursor⟩ := h.cursor
  rw [hcursor, Place.unread_cursor]

theorem peek_eq (h : desk.At text state) : desk.cursor.peek = state.unread.head? := by
  rw [Cursor.peek, h.unread_eq]

theorem text_eq (h : desk.At text state) : desk.cursor.text = text := by
  obtain ⟨before, htext, hcursor⟩ := h.cursor
  rw [hcursor, htext]
  rfl

theorem position_eq (h : desk.At text state) :
    desk.cursor.position = offset text state.unread := by
  obtain ⟨before, htext, hcursor⟩ := h.cursor
  rw [hcursor, htext, offset_append]
  rfl

theorem byteLength_le (h : desk.At text state) : byteLength state.unread ≤ byteLength text := by
  obtain ⟨before, htext, -⟩ := h.cursor
  rw [htext, byteLength_append]
  exact Nat.le_add_left _ _

theorem atEnd_eq (h : desk.At text state) : desk.cursor.atEnd = state.unread.isEmpty := by
  obtain ⟨before, -, hcursor⟩ := h.cursor
  rw [hcursor, Place.atEnd_cursor]

theorem advance (h : desk.At text state) (hunread : state.unread = run ++ rest) :
    Desk.At text ⟨rest, state.depth⟩
      { desk with cursor := desk.cursor.advance (byteLength run) } := by
  obtain ⟨before, htext, hcursor⟩ := h.cursor
  refine ⟨⟨before ++ run, ?_, ?_⟩, h.counter⟩
  · rw [htext, hunread, List.append_assoc]
  · let place : Place := ⟨before, state.unread⟩
    have hadvance : place.cursor.advance (byteLength run) = _ := Place.advance_cursor hunread
    rw [hcursor, hadvance]
    rfl

theorem takeWhile (h : desk.At text state) (p : Char → Bool) :
    (desk.cursor.takeWhile p).1 = state.unread.takeWhile p ∧
      Desk.At text ⟨state.unread.dropWhile p, state.depth⟩
        { desk with cursor := (desk.cursor.takeWhile p).2 } := by
  have hrun : (desk.cursor.takeWhile p).1 = state.unread.takeWhile p := by
    rw [Cursor.takeWhile, h.unread_eq]
  refine ⟨hrun, ?_⟩
  have hadvance := h.advance (@List.takeWhile_append_dropWhile _ p state.unread).symm
  rwa [← hrun] at hadvance

theorem skipBlanks (h : desk.At text state) :
    Desk.At text ⟨FilterQuery.skipBlanks state.unread, state.depth⟩
      { desk with cursor := desk.cursor.skipBlanks.2 } :=
  (h.takeWhile isBlank).2

/-- There are no blanks to skip where skipping leaves all of the text. -/
theorem skipped_eq_zero_iff (h : desk.At text state) :
    desk.cursor.skipBlanks.1 = 0 ↔
      (FilterQuery.skipBlanks state.unread).length = state.unread.length := by
  have hlength := congrArg List.length
    (@List.takeWhile_append_dropWhile _ isBlank state.unread)
  rw [List.length_append] at hlength
  rw [Cursor.skipBlanks, byteLength_eq_zero_iff, (h.takeWhile isBlank).1, FilterQuery.skipBlanks,
    ← List.length_eq_zero_iff]
  omega

theorem take_char (h : desk.At text state) {c : Char} (hunread : state.unread = c :: rest) :
    Desk.At text ⟨rest, state.depth⟩ { desk with cursor := desk.cursor.advance c.utf8Size } := by
  have hadvance := h.advance (hunread.trans (List.singleton_append).symm)
  rwa [byteLength_cons, byteLength_nil, Nat.add_zero] at hadvance

theorem next_eq (h : desk.At text state) {c : Char} (hunread : state.unread = c :: rest) :
    desk.cursor.next = (some c, desk.cursor.advance c.utf8Size) := by
  rw [Cursor.next, h.peek_eq, hunread, List.head?_cons]

theorem eat_eq (h : desk.At text state) {c : Char} (hunread : state.unread = c :: rest) :
    desk.cursor.eat c = (true, desk.cursor.advance c.utf8Size) := by
  rw [Cursor.eat, h.peek_eq, hunread, List.head?_cons, if_pos rfl]

theorem eat_eq_of_ne (h : desk.At text state) {c : Char} (hunread : state.unread.head? ≠ some c) :
    desk.cursor.eat c = (false, desk.cursor) := by
  rw [Cursor.eat, h.peek_eq, if_neg hunread]

theorem quoted_eq (h : desk.At text state) {body : List Char}
    (hunread : state.unread = quoteMark :: (body ++ quoteMark :: rest)) (hbody : quoteMark ∉ body) :
    desk.cursor.quoted.1 = .ok body ∧
      Desk.At text ⟨rest, state.depth⟩ { desk with cursor := desk.cursor.quoted.2 } := by
  obtain ⟨before, htext, hcursor⟩ := h.cursor
  let place : Place := ⟨before, state.unread⟩
  have hquoted : place.cursor.quoted = _ := Place.quoted_cursor hunread hbody
  rw [← hcursor] at hquoted
  rw [hquoted]
  refine ⟨rfl, ⟨_, ?_, rfl⟩, h.counter⟩
  simp [place, htext, hunread]

theorem quoted_open_eq (h : desk.At text state) {body : List Char}
    (hunread : state.unread = quoteMark :: body) (hbody : quoteMark ∉ body) :
    desk.cursor.quoted.1 = .error (Cause.openQuote.errorAt desk.cursor.position) ∧
      desk.cursor.quoted.2.text = text := by
  obtain ⟨before, htext, hcursor⟩ := h.cursor
  let place : Place := ⟨before, state.unread⟩
  have hquoted : place.cursor.quoted = _ := Place.quoted_cursor_open hunread hbody
  rw [← hcursor] at hquoted
  rw [hquoted, htext, hcursor]
  exact ⟨rfl, Place.text_past (List.append_nil _).symm⟩

theorem atWord_eq (h : desk.At text state) (word : List Char) :
    desk.cursor.atWord word = (afterWord? word state.unread).isSome := by
  rw [Cursor.atWord, h.unread_eq]

end Desk.At

/-! ## Courses that come to a reply -/

section Tells

variable {α β : Type} {settings : Settings} {text : List Char} {entry : Desk}

/-- What comes of reading in place is what the reply says. A mistake leaves the cursor anywhere in
the text. -/
inductive Reply.Tells (text : List Char) (entry : Desk) :
    Reply α → Except Stop α → Desk → Prop
  | done {value : α} {next : State} {log : Log} {exit : Desk} : exit.At text next →
      exit.log = entry.log ++ log → Tells text entry (.done value next log) (.ok value) exit
  | failed {fault : Fault} {log : Log} {exit : Desk} : exit.cursor.text = text →
      exit.log = entry.log ++ log →
      Tells text entry (.failed fault log) (.error (.error (fault.errorIn text))) exit

/-- What a reader replies. -/
def Reader.reply (settings : Settings) : (reader : Reader) → State → Reply reader.Value
  | .disjunction => FilterQuery.disjunction settings
  | .moreDisjuncts left => FilterQuery.moreDisjuncts settings left
  | .conjunction => FilterQuery.conjunction settings
  | .moreConjuncts left => FilterQuery.moreConjuncts settings left
  | .joinedOperand => FilterQuery.joinedOperand settings
  | .operand => FilterQuery.operand settings
  | .group => FilterQuery.group settings

/-- The readers that are asked, and those that reply, are among those that are listed, and what they
come to is what they reply in that state. A connective is tried where one of them starts, and if it
is not there nothing changes. -/
def Event.Faithful (settings : Settings) (text : List Char) (listed : List Visit) : Event → Prop
  | .asked reader entry => ∃ state, ⟨reader, state⟩ ∈ listed ∧ entry.At text state
  | .replied reader entry outcome exit => ∃ state, ⟨reader, state⟩ ∈ listed ∧
      entry.At text state ∧ (reader.reply settings state).Tells text entry outcome exit
  | .tried _ entry taken exit =>
    (∃ visit ∈ listed, entry.At text visit.state) ∧ (taken = false → exit = entry)
  | _ => True

/-- The course comes to what the reply says, and everything that happens in it is faithful. -/
structure Course.Follows (settings : Settings) (text : List Char) (listed : List Visit)
    (entry : Desk) (reply : Reply α) (course : Course α) : Prop where
  tells : reply.Tells text entry course.outcome course.desk
  faithful : ∀ event ∈ course.events, event.Faithful settings text listed

theorem Event.Faithful.mono {listed listed' : List Visit} {event : Event}
    (h : event.Faithful settings text listed) (hsub : listed ⊆ listed') :
    event.Faithful settings text listed' := by
  cases event with
  | asked reader entry =>
    obtain ⟨state, hmem, hat⟩ := h
    exact ⟨state, hsub hmem, hat⟩
  | replied reader entry outcome exit =>
    obtain ⟨state, hmem, hat, htells⟩ := h
    exact ⟨state, hsub hmem, hat, htells⟩
  | tried connective entry taken exit =>
    obtain ⟨⟨visit, hmem, hat⟩, hsame⟩ := h
    exact ⟨⟨visit, hsub hmem, hat⟩, hsame⟩
  | _ => trivial

variable {listed listed' : List Visit} {reply : Reply α} {course : Course α}

theorem Course.Follows.mono (h : course.Follows settings text listed entry reply)
    (hsub : listed ⊆ listed') : course.Follows settings text listed' entry reply :=
  ⟨h.tells, fun event hevent => (h.faithful event hevent).mono hsub⟩

/-- The records that were left in between come first. -/
theorem Reply.Tells.after {entry' : Desk} {outcome : Except Stop α} {exit : Desk} {log : Log}
    (h : reply.Tells text entry' outcome exit) (hlog : entry'.log = entry.log ++ log) :
    (reply.after log).Tells text entry outcome exit := by
  cases h with
  | done hat hrecords => exact .done hat (by rw [hrecords, hlog, List.append_assoc])
  | failed htext hrecords => exact .failed htext (by rw [hrecords, hlog, List.append_assoc])

/-- Nothing is noted while the cursor moves, and the log stays as it is. -/
theorem Course.Follows.of_log {entry' : Desk} (h : course.Follows settings text listed entry' reply)
    (hlog : entry'.log = entry.log) : course.Follows settings text listed entry reply := by
  refine ⟨?_, h.faithful⟩
  have htells : (reply.after []).Tells text entry course.outcome course.desk :=
    h.tells.after (hlog.trans (List.append_nil _).symm)
  rwa [Reply.after_nil] at htells

/-- One more thing that happened before. -/
theorem Course.Follows.noted (h : course.Follows settings text listed entry reply) (event : Event)
    (hevent : event.Faithful settings text listed) :
    Course.Follows settings text listed entry reply
      { course with events := event :: course.events } := by
  refine ⟨h.tells, fun event' hevent' => ?_⟩
  rcases List.mem_cons.mp hevent' with rfl | hevent'
  · exact hevent
  · exact h.faithful event' hevent'

theorem follows_done {state : State} (h : entry.At text state) (value : α) :
    Course.Follows settings text listed entry (.done value state []) ⟨.ok value, entry, []⟩ :=
  ⟨.done h (List.append_nil _).symm, by simp⟩

/-- A mistake that is reported at the cursor. -/
theorem follows_fail {cause : Cause} {state : State} {unread : List Char}
    (h : entry.At text state) (hunread : state.unread = unread) :
    Course.Follows settings text listed entry (.failed ⟨cause, unread⟩ [])
      (fail (α := α) cause entry) := by
  refine ⟨?_, by simp [fail, halt]⟩
  have herror : cause.errorAt entry.cursor.position = Fault.errorIn ⟨cause, unread⟩ text := by
    rw [h.position_eq, hunread]
    rfl
  rw [fail, halt, herror]
  exact .failed h.text_eq (List.append_nil _).symm

/-- One reader after another. -/
theorem Course.Follows.bind {act : Act α} {next : α → Act β} {second : α → State → Reply β}
    (h : (act entry).Follows settings text listed entry reply)
    (hnext : ∀ value state log desk, reply = .done value state log → desk.At text state →
      (next value desk).Follows settings text listed desk (second value state)) :
    ((act >>= next) entry).Follows settings text listed entry (reply.andThen second) := by
  rw [Act.bind_eq, Course.andThen]
  rcases hcourse : act entry with ⟨outcome, desk, events⟩
  rw [hcourse] at h
  obtain ⟨htells, hfaithful⟩ := h
  dsimp only at htells hfaithful ⊢
  cases htells with
  | @done value state log _ hat hlog =>
    have hsecond := hnext value state log desk rfl hat
    refine ⟨hsecond.tells.after hlog, fun event hevent => ?_⟩
    rcases List.mem_append.mp hevent with hevent | hevent
    · exact hfaithful event hevent
    · exact hsecond.faithful event hevent
  | failed htext hlog => exact ⟨.failed htext hlog, hfaithful⟩

end Tells

/-! ## Leaves -/

/-- What a reader of a piece of text replies. -/
def pieceReply {α : Type} (depth : Nat) : Except Fault (α × List Char) → Reply α
  | .ok (value, rest) => .done value ⟨rest, depth⟩ []
  | .error fault => .failed fault []

section Leaves

variable {settings : Settings} {text : List Char} {listed : List Visit} {state : State}
  {desk : Desk}

theorem follows_write {α : Type} (h : desk.At text state) (value : α) (records : Log) :
    Course.Follows settings text listed desk (.done value state records)
      ((write records >>= fun _ => pure value) desk) := by
  rw [write_bind, pure_eq]
  exact ⟨.done ⟨h.cursor, h.counter⟩ rfl, by simp⟩

theorem runIn_follows (h : desk.At text state) (p : Char → Bool) (cause : Cause) :
    (runIn p cause desk).Follows settings text listed desk
      (pieceReply state.depth (readRun p cause state.unread)) := by
  obtain ⟨hrun, hat⟩ := h.takeWhile p
  rw [runIn, move_bind, hrun, readRun]
  split
  · next hempty =>
    have hrest := @List.takeWhile_append_dropWhile _ p state.unread
    rw [List.isEmpty_iff.mp hempty, List.nil_append] at hrest
    exact (follows_fail hat hrest).of_log rfl
  · exact (follows_done hat _).of_log rfl

theorem valueIn_follows (h : desk.At text state) :
    (valueIn desk).Follows settings text listed desk
      (pieceReply state.depth (readValue state.unread)) := by
  rw [valueIn, look_bind, h.peek_eq]
  split
  · next hquote =>
    obtain ⟨tail, hunread⟩ := List.head?_eq_some_iff.mp hquote
    rw [hunread, readValue_quote, move_bind]
    rcases hfound : afterQuote? tail with _ | ⟨body, rest⟩
    · obtain ⟨hquoted, htext⟩ := h.quoted_open_eq hunread (afterQuote?_eq_none_iff.mp hfound)
      rw [hquoted, h.position_eq, hunread]
      exact ⟨.failed htext (List.append_nil _).symm, by simp [halt]⟩
    · obtain ⟨rfl, hbody⟩ := afterQuote?_eq_some_iff.mp hfound
      obtain ⟨hquoted, hat⟩ := h.quoted_eq hunread hbody
      rw [hquoted]
      exact (follows_done hat _).of_log rfl
  · next hquote =>
    rw [readValue_of_ne hquote]
    exact runIn_follows h isValueChar .noValue

theorem pairOperand_eq (settings : Settings) (state : State) :
    pairOperand settings state =
      (pieceReply state.depth (readRun isKeyChar .noKey state.unread)).andThen fun name next =>
        match next.unread with
        | ':' :: rest => (pieceReply next.depth (readValue rest)).andThen fun value last =>
            .done (.pair (Key.ofRun name) value) last (pairLog settings (Key.ofRun name) value)
        | unread => .failed ⟨.noSeparator (Key.ofRun name).name, unread⟩ [] := by
  rw [pairOperand, readPair, readKey]
  rcases readRun isKeyChar .noKey state.unread with fault | ⟨name, rest⟩
  · rfl
  · rcases rest with _ | ⟨c, rest⟩
    · rfl
    · by_cases hc : c = ':'
      · subst hc
        rcases hvalue : readValue rest with fault | ⟨value, last⟩
        · simp [pieceReply, hvalue, leafReply]
        · simp [pieceReply, hvalue, leafReply, Reply.after]
      · simp [pieceReply, leafReply, Reply.after, hc]

theorem tagOperand_eq (polarity : Polarity) (state : State) :
    tagOperand polarity state =
      (pieceReply state.depth (readTagName polarity state.unread)).andThen fun name next =>
        .done (.tag polarity name) next [.tag polarity name] := by
  rw [tagOperand]
  rcases readTagName polarity state.unread with fault | ⟨name, rest⟩ <;> rfl

theorem pairIn_follows (h : desk.At text state) :
    (pairIn settings desk).Follows settings text listed desk (pairOperand settings state) := by
  rw [pairIn, pairOperand_eq]
  refine (runIn_follows h isKeyChar .noKey).bind fun name next log desk _ hat => ?_
  rcases hunread : next.unread with _ | ⟨c, rest⟩
  · rw [move_bind, hat.eat_eq_of_ne (by simp [hunread])]
    simp only [Bool.false_eq_true, if_false]
    exact follows_fail hat hunread
  · by_cases hc : c = ':'
    · subst hc
      have hbehind := hat.take_char hunread
      rw [move_bind, hat.eat_eq hunread]
      simp only [if_true]
      exact ((valueIn_follows hbehind).bind fun value last log desk _ hlast =>
        follows_write hlast (Filter.pair (Key.ofRun name) value)
          (pairLog settings (Key.ofRun name) value)).of_log rfl
    · rw [move_bind, hat.eat_eq_of_ne (by simpa [hunread] using hc)]
      simp only [Bool.false_eq_true, if_false]
      have hother : ∀ (f : List Char → Reply Filter) (g : List Char → Reply Filter),
          (match c :: rest with | ':' :: rest => f rest | unread => g unread) = g (c :: rest) := by
        intro f g
        split
        · next heq => exact absurd (List.cons.inj heq).1 hc
        · rfl
      rw [hother]
      exact follows_fail hat hunread

theorem tagIn_follows {polarity : Polarity} {rest : List Char}
    (h : desk.At text state) (hunread : state.unread = polarity.sign :: rest) :
    (tagIn polarity desk).Follows settings text listed desk
      (tagOperand polarity ⟨rest, state.depth⟩) := by
  rw [tagIn, move_bind, h.next_eq hunread, tagOperand_eq]
  exact ((runIn_follows (h.take_char hunread) isTagChar (.noTagName polarity)).bind
    fun name next log desk _ hat =>
      follows_write hat (Filter.tag polarity name) [.tag polarity name]).of_log rfl

end Leaves

/-! ## Readers -/

theorem tryConnective_of_none {text : List Char} {state : State} {desk : Desk}
    {connective : Connective} (h : desk.At text state)
    (hword : afterConnective? connective state.unread = none) :
    tryConnective connective desk = ⟨.ok false, desk, [.tried connective desk false desk]⟩ := by
  have hat : desk.cursor.skipBlanks.2.atWord connective.word.toList = false := by
    rw [afterConnective?, Option.map_eq_none_iff] at hword
    rw [h.skipBlanks.atWord_eq, hword]
    rfl
  rw [tryConnective, eatConnective_eq, hat]
  rfl

theorem tryConnective_of_some {text rest : List Char} {state : State} {desk : Desk}
    {connective : Connective} (h : desk.At text state)
    (hword : afterConnective? connective state.unread = some rest) :
    ∃ exit, tryConnective connective desk =
        ⟨.ok true, exit, [.tried connective desk true exit]⟩ ∧
      exit.At text ⟨rest, state.depth⟩ ∧ exit.log = desk.log := by
  obtain ⟨behind, hbehind, rfl⟩ := Option.map_eq_some_iff.mp hword
  have hat : desk.cursor.skipBlanks.2.atWord connective.word.toList = true := by
    rw [h.skipBlanks.atWord_eq, hbehind]
    rfl
  refine ⟨_, ?_, (h.skipBlanks.advance (afterWord?_eq_some_iff.mp hbehind).1).skipBlanks, rfl⟩
  rw [tryConnective, eatConnective_eq, hat]
  rfl

/-- The readers with less than `n` before them come to what they reply. -/
def Answers (settings : Settings) (text : List Char) (n : Nat)
    (ask : (reader : Reader) → Act reader.Value) : Prop :=
  ∀ reader state entry, Visit.size ⟨reader, state⟩ < n → (reader = .group → state.unread ≠ []) →
    entry.At text state → (ask reader entry).Follows settings text (visits settings reader state)
      entry (reader.reply settings state)

section Readers

variable {settings : Settings} {text : List Char} {state : State} {entry : Desk}
  {ask : (reader : Reader) → Act reader.Value} {left : Filter}

/-- One reader after another, with all that they ask. -/
theorem Course.Follows.onward {α β : Type} {act : Act α} {next : α → Act β} {reply : Reply α}
    {second : α → State → Reply β} {asked : List Visit} {more : α → State → List Visit}
    (h : (act entry).Follows settings text asked entry reply)
    (hnext : ∀ value state log desk, reply = .done value state log → desk.At text state →
      (next value desk).Follows settings text (more value state) desk (second value state)) :
    ((act >>= next) entry).Follows settings text (asked ++ reply.visits more) entry
      (reply.andThen second) := by
  refine (h.mono (List.subset_append_left _ _)).bind fun value state log desk hreply hat => ?_
  refine (hnext value state log desk hreply hat).mono fun visit hvisit => ?_
  refine List.mem_append_right asked (Reply.mem_visits_iff.mpr ?_)
  exact ⟨value, state, log, hreply, hvisit⟩

/-- What goes on behind a connective that is not there. -/
theorem Course.Follows.untaken {α : Type} {connective : Connective} {next : Bool → Act α}
    {listed : List Visit} {reply : Reply α} {reader : Reader} (h : entry.At text state)
    (hword : afterConnective? connective state.unread = none)
    (hnext : (next false entry).Follows settings text listed entry reply) :
    ((tryConnective connective >>= next) entry).Follows settings text (⟨reader, state⟩ :: listed)
      entry reply := by
  rw [Act.bind_eq, tryConnective_of_none h hword]
  refine (hnext.mono (List.subset_cons_self _ _)).noted (.tried connective entry false entry) ?_
  exact ⟨⟨⟨reader, state⟩, List.mem_cons_self, h⟩, fun _ => rfl⟩

/-- What goes on behind a connective that was taken. -/
theorem Course.Follows.taken {α : Type} {connective : Connective} {next : Bool → Act α}
    {listed : List Visit} {reply : Reply α} {reader : Reader} {unread : List Char}
    (h : entry.At text state) (hword : afterConnective? connective state.unread = some unread)
    (hnext : ∀ exit : Desk, exit.At text ⟨unread, state.depth⟩ →
      (next true exit).Follows settings text listed exit reply) :
    ((tryConnective connective >>= next) entry).Follows settings text (⟨reader, state⟩ :: listed)
      entry reply := by
  obtain ⟨exit, htry, hexit, hlog⟩ := tryConnective_of_some h hword
  rw [Act.bind_eq, htry]
  refine (((hnext exit hexit).of_log hlog).mono (List.subset_cons_self _ _)).noted
    (.tried connective entry true exit) ?_
  exact ⟨⟨⟨reader, state⟩, List.mem_cons_self, h⟩, nofun⟩

theorem disjunction_follows (hask : Answers settings text (Visit.size ⟨.disjunction, state⟩) ask)
    (h : entry.At text state) : (Reader.disjunction.body settings ask entry).Follows settings text
      (visits settings .disjunction state) entry (disjunction settings state) := by
  rw [visits_disjunction, disjunction_eq]
  refine Course.Follows.mono ?_ (List.subset_cons_self _ _)
  refine (hask .conjunction state entry (Visit.size_lt_of_rank (by decide)) nofun h).onward
    fun left next log desk hreply hat => ?_
  exact hask (.moreDisjuncts left) next desk (Visit.size_lt (length_conjunction_lt hreply)) nofun
    hat

theorem conjunction_follows (hask : Answers settings text (Visit.size ⟨.conjunction, state⟩) ask)
    (h : entry.At text state) : (Reader.conjunction.body settings ask entry).Follows settings text
      (visits settings .conjunction state) entry (conjunction settings state) := by
  rw [visits_conjunction, conjunction_eq]
  refine Course.Follows.mono ?_ (List.subset_cons_self _ _)
  refine (hask .operand state entry (Visit.size_lt_of_rank (by decide)) nofun h).onward
    fun left next log desk hreply hat => ?_
  exact hask (.moreConjuncts left) next desk (Visit.size_lt (length_operand_lt hreply)) nofun hat

theorem moreDisjuncts_follows
    (hask : Answers settings text (Visit.size ⟨.moreDisjuncts left, state⟩) ask)
    (h : entry.At text state) : ((Reader.moreDisjuncts left).body settings ask entry).Follows
      settings text (visits settings (.moreDisjuncts left) state) entry
      (moreDisjuncts settings left state) := by
  rw [visits_moreDisjuncts, moreDisjuncts_eq]
  rcases hword : afterConnective? .or state.unread with _ | unread
  · exact .untaken h hword (follows_done h left)
  · have hlt := length_afterConnective?_lt hword
    refine .taken h hword fun exit hexit => ?_
    refine (hask .conjunction _ exit (Visit.size_lt hlt) nofun hexit).onward
      fun right next log desk hreply hat => ?_
    have hlength := Nat.lt_trans (length_conjunction_lt hreply) hlt
    exact hask (.moreDisjuncts (.either left right)) next desk (Visit.size_lt hlength) nofun hat

theorem moreConjuncts_follows
    (hask : Answers settings text (Visit.size ⟨.moreConjuncts left, state⟩) ask)
    (h : entry.At text state) : ((Reader.moreConjuncts left).body settings ask entry).Follows
      settings text (visits settings (.moreConjuncts left) state) entry
      (moreConjuncts settings left state) := by
  rw [visits_moreConjuncts, moreConjuncts_eq]
  rcases hword : afterConnective? .and state.unread with _ | unread
  · refine .untaken h hword ?_
    refine (hask .joinedOperand state entry (Visit.size_lt_of_rank Nat.zero_lt_one) nofun h).onward
      fun found next log desk hreply hat => ?_
    rcases found with _ | right
    · exact follows_done hat left
    · exact hask (.moreConjuncts (.both left right)) next desk
        (Visit.size_lt (length_joinedOperand_lt hreply)) nofun hat
  · have hlt := length_afterConnective?_lt hword
    refine .taken h hword fun exit hexit => ?_
    refine (hask .operand _ exit (Visit.size_lt hlt) nofun hexit).onward
      fun right next log desk hreply hat => ?_
    have hlength := Nat.lt_trans (length_operand_lt hreply) hlt
    exact hask (.moreConjuncts (.both left right)) next desk (Visit.size_lt hlength) nofun hat

theorem operand_follows (hask : Answers settings text (Visit.size ⟨.operand, state⟩) ask)
    (h : entry.At text state) : (Reader.operand.body settings ask entry).Follows settings text
      (visits settings .operand state) entry (operand settings state) := by
  rw [visits_operand, operand_eq, Reader.body, look_bind, h.peek_eq]
  rcases hunread : state.unread with _ | ⟨c, rest⟩
  · exact follows_fail h hunread
  · simp only [List.head?_cons]
    by_cases hc : c = '('
    · subst hc
      simp only [if_true]
      refine Course.Follows.mono ?_ (List.subset_cons_self _ _)
      refine hask .group state entry (Visit.size_lt_of_rank (by decide)) (fun _ => ?_) h
      exact hunread ▸ List.cons_ne_nil _ _
    · simp only [if_neg hc]
      rcases hsign : Polarity.ofSign? c with _ | polarity
      · by_cases hkey : isKeyChar c = true
        · simp only [if_pos hkey]
          exact pairIn_follows h
        · simp only [if_neg hkey]
          exact follows_fail h hunread
      · obtain rfl := Polarity.ofSign?_eq_some_iff.mp hsign
        exact tagIn_follows h hunread

theorem endsConjunction_at (h : entry.At text state) :
    (entry.cursor.atEnd || entry.cursor.peek == some ')' ||
      entry.cursor.atWord Connective.or.word.toList) = endsConjunction state.unread := by
  rw [h.atEnd_eq, h.peek_eq, h.atWord_eq]
  rfl

/-- The desk with the cursor put back to where it was. -/
theorem at_goTo (h : entry.At text state) {exit : Desk} (htext : exit.cursor.text = text)
    (hcounter : exit.counter = entry.counter) :
    Desk.At text state { exit with
      cursor := { exit.cursor with position := entry.cursor.position } } := by
  obtain ⟨before, hbefore, hcursor⟩ := h.cursor
  refine ⟨⟨before, hbefore, ?_⟩, hcounter ▸ h.counter⟩
  dsimp only
  rw [htext, hbefore, hcursor]
  rfl

theorem joinedReply_group {before : State} {operandText : List Char} {reply : Reply Filter}
    (h : operandText.head? = some '(') : joinedReply before operandText reply =
      reply.andThen fun right next => .done (some right) next [] := by
  rcases reply with ⟨right, next, log⟩ | ⟨fault, log⟩
  · simp [joinedReply, Reply.after]
  · simp [joinedReply, h]

theorem orGoBack_follows {act : Act Filter} {desk : Desk} {reply : Reply Filter}
    {listed : List Visit} {operandText : List Char} (h : entry.At text state)
    (hcounter : (act desk).desk.counter = entry.counter) (hgroup : operandText.head? ≠ some '(')
    (hact : (act desk).Follows settings text listed desk reply) :
    (orGoBack entry.cursor.position act desk).Follows settings text listed desk
      (joinedReply state operandText reply) := by
  rw [orGoBack_eq]
  obtain ⟨htells, hfaithful⟩ := hact
  rcases hcourse : act desk with ⟨outcome, exit, events⟩
  rw [hcourse] at htells hfaithful hcounter
  dsimp only at htells hfaithful hcounter ⊢
  cases htells with
  | done hat hlog => exact ⟨.done hat hlog, hfaithful⟩
  | @failed fault log _ htext hlog =>
    have hkind : Stop.isNoOperand (.error (fault.errorIn text)) = fault.cause.isNoOperand := rfl
    have hhead : (operandText.head? != some '(') = true := bne_iff_ne.mpr hgroup
    simp only [hkind, joinedReply, hhead, Bool.true_and]
    split
    · exact ⟨.done (at_goTo h htext hcounter) hlog, hfaithful⟩
    · exact ⟨.failed htext hlog, hfaithful⟩

theorem joinedOperand_follows
    (hask : Answers settings text (Visit.size ⟨.joinedOperand, state⟩) ask)
    (hquiet : ∀ desk : Desk, desk.cursor.peek ≠ some '(' →
      (ask .operand desk).desk.counter = desk.counter)
    (h : entry.At text state) : (Reader.joinedOperand.body settings ask entry).Follows settings text
      (visits settings .joinedOperand state) entry (joinedOperand settings state) := by
  have hblanks := h.skipBlanks
  rw [visits_joinedOperand, joinedOperand_eq, Reader.body, look_bind, move_bind, look_bind]
  refine Course.Follows.mono ?_ (List.subset_cons_self _ _)
  have hends := endsConjunction_at hblanks
  dsimp only at hends ⊢
  rw [hends]
  by_cases hnone : (skipBlanks state.unread).length = state.unread.length ∨
      endsConjunction (skipBlanks state.unread) = true
  · have hstop : (entry.cursor.skipBlanks.1 == 0 ||
        endsConjunction (skipBlanks state.unread)) = true := by
      rw [Bool.or_eq_true, beq_iff_eq, h.skipped_eq_zero_iff]
      exact hnone
    simp only [if_pos hnone, if_pos hstop, goTo_bind]
    exact (follows_done (at_goTo h hblanks.text_eq rfl) none).of_log rfl
  · have hstop : ¬(entry.cursor.skipBlanks.1 == 0 ||
        endsConjunction (skipBlanks state.unread)) = true := by
      rw [Bool.or_eq_true, beq_iff_eq, h.skipped_eq_zero_iff]
      exact hnone
    have hlt : (skipBlanks state.unread).length < state.unread.length :=
      Nat.lt_of_le_of_ne (length_skipBlanks_le _) fun heq => hnone (.inl heq)
    have hoperand := hask .operand _ _ (Visit.size_lt hlt) (by simp) hblanks
    simp only [if_neg hnone, if_neg hstop, look_bind, hblanks.peek_eq]
    by_cases hgroup : (skipBlanks state.unread).head? = some '('
    · simp only [if_pos hgroup]
      rw [joinedReply_group hgroup]
      obtain ⟨inside, hinside⟩ := List.head?_eq_some_iff.mp hgroup
      have hopens := hask .group _ _ (Visit.size_lt hlt) (fun _ => hinside ▸ List.cons_ne_nil _ _)
        hblanks
      rw [visits_operand, if_pos hgroup]
      have hreply : operand settings ⟨skipBlanks state.unread, state.depth⟩ =
          group settings ⟨skipBlanks state.unread, state.depth⟩ := by
        rw [operand_eq, hinside]
        rfl
      rw [hreply]
      exact ((hopens.mono (List.subset_cons_self _ _)).bind fun right next log desk _ hat =>
        follows_done hat (some right)).of_log rfl
    · simp only [if_neg hgroup]
      have hcounter := hquiet _ (hblanks.peek_eq ▸ hgroup)
      exact (orGoBack_follows h hcounter hgroup hoperand).of_log rfl

/-- A counter that counts open groups does so when one of them closes. -/
theorem toNat_sub_one {counter : UInt64} {depth : Nat} (h : counter.toNat = depth)
    (hpos : 0 < depth) : (counter - 1).toNat = depth - 1 := by
  have hle : (1 : UInt64) ≤ counter := by
    rw [UInt64.le_iff_toNat_le, h]
    exact hpos
  rw [UInt64.toNat_sub_of_le _ _ hle, h]
  rfl

/-- It does so when one more group opens, as long as the number fits into the counter. -/
theorem toNat_add_one {counter : UInt64} {depth : Nat} (h : counter.toNat = depth)
    (hlt : depth + 1 < UInt64.size) : (counter + 1).toNat = depth + 1 := by
  rw [UInt64.toNat_add, h]
  exact Nat.mod_eq_of_lt hlt

theorem closeIn_follows {opening : List Char} {inner : Filter} {listed : List Visit}
    (h : entry.At text state) (hopening : byteLength opening ≤ byteLength text)
    (hpos : 0 < state.depth) : (closeIn (offset text opening) inner entry).Follows settings text
      listed entry (closeGroup opening inner state) := by
  have hblanks := h.skipBlanks
  have hspan : entry.cursor.skipBlanks.2.position - offset text opening =
      offset opening (skipBlanks state.unread) := by
    have hposition := hblanks.position_eq
    have hunread := hblanks.byteLength_le
    simp only [offset] at hposition hunread ⊢
    omega
  rw [closeIn, closeGroup, move_bind, move_bind]
  rcases hunread : skipBlanks state.unread with _ | ⟨c, rest⟩
  · rw [hblanks.eat_eq_of_ne (by simp [hunread])]
    simp only [Bool.false_eq_true, if_false, look_bind, hblanks.peek_eq, hspan,
      hunread, List.head?_nil]
    exact (follows_fail hblanks hunread).of_log rfl
  · by_cases hc : c = ')'
    · subst hc
      have hclosed := hblanks.take_char hunread
      rw [hblanks.eat_eq hunread]
      simp only [if_true, countDown_bind]
      refine ⟨.done ⟨hclosed.cursor, toNat_sub_one hclosed.counter hpos⟩
        (List.append_nil _).symm, ?_⟩
      simp [pure_eq, Event.Faithful]
    · rw [hblanks.eat_eq_of_ne (by simpa [hunread] using hc)]
      simp only [Bool.false_eq_true, if_false, look_bind, hblanks.peek_eq,
        hblanks.unread_eq, hspan, hunread, List.head?_cons]
      by_cases hmem : (c :: rest).contains ')' = true
      · simp only [if_pos hmem]
        exact (follows_fail hblanks hunread).of_log rfl
      · simp only [if_neg hmem]
        exact (follows_fail hblanks hunread).of_log rfl

theorem group_follows (hask : Answers settings text (Visit.size ⟨.group, state⟩) ask)
    (hdepth : settings.maxDepth < UInt64.size) (hne : state.unread ≠ []) (h : entry.At text state) :
    (Reader.group.body settings ask entry).Follows settings text (visits settings .group state)
      entry (group settings state) := by
  rw [visits_group, group_eq, Reader.body, look_bind, depth_bind, h.counter]
  obtain ⟨c, inside, hunread⟩ := List.exists_cons_of_ne_nil hne
  simp only [hunread]
  by_cases hlimit : settings.maxDepth ≤ state.depth
  · simp only [if_pos hlimit]
    exact follows_fail h hunread
  · let opened : Desk :=
      ⟨(entry.cursor.advance c.utf8Size).skipBlanks.2, entry.counter + 1, entry.log⟩
    have hopened : opened.At text ⟨skipBlanks inside, state.depth + 1⟩ :=
      ⟨(h.take_char hunread).skipBlanks.cursor, toNat_add_one h.counter (by omega)⟩
    have hlt : Visit.size ⟨.disjunction, ⟨skipBlanks inside, state.depth + 1⟩⟩ <
        Visit.size ⟨.group, state⟩ :=
      Visit.size_lt (by rw [hunread]; exact Nat.lt_succ_of_le (length_skipBlanks_le inside))
    simp only [if_neg hlimit, move_bind, countUp_bind, h.next_eq hunread]
    have hposition : entry.cursor.position = offset text (c :: inside) := by
      rw [h.position_eq, hunread]
    have hinside : ((ask .disjunction >>= closeIn entry.cursor.position) opened).Follows
        settings text (visits settings .disjunction ⟨skipBlanks inside, state.depth + 1⟩) opened
        ((disjunction settings ⟨skipBlanks inside, state.depth + 1⟩).andThen
          (closeGroup (c :: inside))) := by
      refine (hask .disjunction _ _ hlt (by simp) hopened).bind
        fun inner next log desk hreply hat => ?_
      rw [hposition]
      refine closeIn_follows hat (hunread ▸ h.byteLength_le) ?_
      rw [(read_sound.1 (.chain .or) _ hreply).1]
      exact Nat.succ_pos _
    have hgroup : Course.Follows settings text _ entry _ _ :=
      (hinside.mono (List.subset_cons_self ⟨.group, state⟩ _)).of_log rfl
    exact hgroup.noted (.opened entry.counter) trivial

/-- What a reader does comes to what it replies, given the readers that it asks. -/
theorem body_follows (reader : Reader)
    (hask : Answers settings text (Visit.size ⟨reader, state⟩) ask)
    (hquiet : ∀ desk : Desk, desk.cursor.peek ≠ some '(' →
      (ask .operand desk).desk.counter = desk.counter)
    (hdepth : settings.maxDepth < UInt64.size) (hne : reader = .group → state.unread ≠ [])
    (h : entry.At text state) : (reader.body settings ask entry).Follows settings text
      (visits settings reader state) entry (reader.reply settings state) := by
  cases reader with
  | disjunction => exact disjunction_follows hask h
  | moreDisjuncts left => exact moreDisjuncts_follows hask h
  | conjunction => exact conjunction_follows hask h
  | moreConjuncts left => exact moreConjuncts_follows hask h
  | joinedOperand => exact joinedOperand_follows hask hquiet h
  | operand => exact operand_follows hask h
  | group => exact group_follows hask hdepth (hne rfl) h

theorem mem_visits_self (settings : Settings) (reader : Reader) (state : State) :
    ⟨reader, state⟩ ∈ visits settings reader state := by
  rw [visits.eq_def]
  exact List.mem_cons_self

theorem Course.Follows.asCall {reader : Reader} {act : Act reader.Value} (h : entry.At text state)
    (hact : (act entry).Follows settings text (visits settings reader state) entry
      (reader.reply settings state)) : (asCall reader act entry).Follows settings text
      (visits settings reader state) entry (reader.reply settings state) := by
  have hmem := mem_visits_self settings reader state
  refine ⟨hact.tells, fun event hevent => ?_⟩
  rcases List.mem_cons.mp hevent with rfl | hevent
  · exact ⟨state, hmem, h⟩
  · rcases List.mem_append.mp hevent with hevent | hevent
    · exact hact.faithful event hevent
    · obtain rfl := List.mem_singleton.mp hevent
      exact ⟨state, hmem, h, hact.tells⟩

theorem perform_operand_counter (settings : Settings) (bound : Nat) {desk : Desk}
    (h : desk.cursor.peek ≠ some '(') :
    (perform settings bound .operand desk).desk.counter = desk.counter := by
  cases bound with
  | zero => rfl
  | succ bound => exact (operand_body_quiet settings _ h).1

/-- The readers that do not ask each other too deeply come to what they reply, by induction on how
deeply they may. -/
theorem perform_answers (hdepth : settings.maxDepth < UInt64.size) (bound : Nat) :
    Answers settings text bound (perform settings bound) := by
  induction bound with
  | zero => exact fun _ _ _ hsize => absurd hsize (Nat.not_lt_zero _)
  | succ bound ih =>
    intro reader state entry hsize hne h
    refine Course.Follows.asCall h ?_
    refine body_follows reader (fun reader' state' entry' hsize' => ?_)
      (fun desk => perform_operand_counter settings bound) hdepth hne h
    exact ih reader' state' entry' (Nat.lt_of_lt_of_le hsize' (Nat.le_of_lt_succ hsize))

theorem endIn_follows {listed : List Visit} (h : entry.At text state) (filter : Filter) :
    (endIn filter entry).Follows settings text listed entry (endOfText filter state) := by
  have hblanks := h.skipBlanks
  rw [endIn, move_bind, look_bind, hblanks.peek_eq]
  rcases hunread : skipBlanks state.unread with _ | ⟨c, rest⟩
  · rw [endOfText_nil hunread]
    rw [hunread] at hblanks
    exact (follows_done hblanks filter).of_log rfl
  · rw [endOfText_cons hunread]
    simp only [List.head?_cons]
    by_cases hc : c = ')'
    · simp only [if_pos hc]
      exact (follows_fail hblanks hunread).of_log rfl
    · simp only [if_neg hc]
      exact (follows_fail hblanks hunread).of_log rfl

end Readers

/-! ## Whole texts -/

theorem start_at (input : String) : (Desk.start input).At input.toList ⟨input.toList, 0⟩ :=
  ⟨⟨[], rfl, rfl⟩, rfl⟩

section Texts

variable {settings : Settings} (hdepth : settings.maxDepth < UInt64.size) (input : String)

include hdepth

/-- The course of reading a text comes to what the readers reply, and so does every reader that is
asked on the way. -/
theorem course_follows : (settings.course input).Follows settings input.toList
    (visits settings .disjunction ⟨skipBlanks input.toList, 0⟩) (.start input)
    (wholeText settings input.toList) := by
  have hblanks := (start_at input).skipBlanks
  have hle := length_skipBlanks_le input.toList
  have hsize : Visit.size ⟨.disjunction, ⟨skipBlanks input.toList, 0⟩⟩ <
      4 * input.toList.length + 4 := by
    simp only [Visit.size, Reader.rank]
    omega
  rw [Settings.course, readText, move_bind, wholeText]
  have hread := perform_answers hdepth _ _ _ _ hsize (by simp) hblanks
  have hwhole := hread.bind fun filter next log desk _ hat => endIn_follows hat filter
  exact hwhole.of_log rfl

/-- Reading in place comes to an end, with the same filter or the same error and with the same
log. -/
theorem parseInPlace_eq : settings.parseInPlace input = some (settings.parse input) := by
  rw [Settings.parseInPlace, Settings.parse]
  rcases settings.exceededLimit (byteLength input.toList) with _ | limit
  · have htells := (course_follows hdepth input).tells
    rcases hcourse : settings.course input with ⟨outcome, desk, events⟩
    rw [hcourse] at htells
    dsimp only at htells ⊢
    generalize wholeText settings input.toList = reply at htells ⊢
    cases htells with
    | done _ hlog =>
      dsimp only
      rw [hlog]
      rfl
    | failed _ hlog =>
      dsimp only
      rw [hlog]
      rfl
  · rfl

end Texts

end FilterQuery
