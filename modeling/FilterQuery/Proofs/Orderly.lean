import FilterQuery.Proofs.Faithful

/-!
# The counter of open groups is kept in order

A group counts itself when it opens, and a reader that fails inside of it does not take that back.
The counter is right all the same, for no reader that goes on has been inside of a group that
failed. None of this depends on the text.

* `Counts`: the counter along what happens. It goes up only below the limit, and down only from
  above zero. `Counts.toNat_add`: so it is the number of groups that were opened and not closed.
* `Proceeds`: what every part of a course keeps to. `Proceeds.append`: one part after another.
* `Course.Orderly`: the course proceeds, and what it finds leaves the counter as it was.
  `Course.Orderly.andThen`, `Course.Orderly.asCall`: one act after another, and a reader that is
  asked and replies.
* `body_orderly`: what a reader does, given the readers that it asks. `perform_orderly`: readers
  that ask each other.
-/

namespace FilterQuery

open Text Act

/-! ## The counter along what happens -/

/-- The counter at the time of an event. -/
def Event.counter : Event → UInt64
  | asked _ entry => entry.counter
  | replied _ _ _ exit => exit.counter
  | tried _ entry _ _ => entry.counter
  | opened counter => counter
  | closed counter => counter

/-- The counter behind an event. -/
def Event.nextCounter : Event → UInt64
  | opened counter => counter + 1
  | closed counter => counter - 1
  | event => event.counter

/-- A group opens only below the limit, and only a group that is open closes. -/
def Event.Allowed (limit : Nat) : Event → Prop
  | opened counter => counter.toNat < limit
  | closed counter => 0 < counter.toNat
  | _ => True

/-- Whether a group opens. -/
def Event.isOpening : Event → Bool
  | opened _ => true
  | _ => false

/-- Whether a group closes. -/
def Event.isClosing : Event → Bool
  | closed _ => true
  | _ => false

/-- The events lead from one counter to another. -/
inductive Counts (limit : Nat) : UInt64 → List Event → UInt64 → Prop
  | nil {counter : UInt64} : Counts limit counter [] counter
  | cons {event : Event} {events : List Event} {counter last : UInt64} :
    event.counter = counter → event.Allowed limit → Counts limit event.nextCounter events last →
    Counts limit counter (event :: events) last

section Counts

variable {limit : Nat} {counter middle last : UInt64} {events events' : List Event}

theorem Counts.append (h : Counts limit counter events middle)
    (h' : Counts limit middle events' last) : Counts limit counter (events ++ events') last := by
  induction h with
  | nil => exact h'
  | cons hcounter hallowed _ ih => exact .cons hcounter hallowed (ih h')

theorem Counts.split (h : Counts limit counter (events ++ events') last) :
    ∃ middle, Counts limit counter events middle ∧ Counts limit middle events' last := by
  induction events generalizing counter with
  | nil => exact ⟨counter, .nil, h⟩
  | cons event events ih =>
    cases h with
    | cons hcounter hallowed htail =>
      obtain ⟨middle, hevents, hrest⟩ := ih htail
      exact ⟨middle, .cons hcounter hallowed hevents, hrest⟩

theorem Counts.allowed (h : Counts limit counter events last) {event : Event}
    (hevent : event ∈ events) : event.Allowed limit := by
  induction h with
  | nil => cases hevent
  | cons _ hallowed _ ih =>
    rcases List.mem_cons.mp hevent with rfl | hevent
    · exact hallowed
    · exact ih hevent

/-- One event changes the counter as it says, and keeps it within the limit. -/
theorem Event.Allowed.toNat_add {event : Event} (h : event.Allowed limit)
    (hlimit : limit < UInt64.size) (hle : event.counter.toNat ≤ limit) :
    event.nextCounter.toNat + [event].countP isClosing =
        event.counter.toNat + [event].countP isOpening ∧ event.nextCounter.toNat ≤ limit := by
  cases event with
  | opened counter =>
    have hlt : counter.toNat < limit := h
    have hnext : (counter + 1).toNat = counter.toNat + 1 := toNat_add_one rfl (by omega)
    exact ⟨hnext, Nat.le_trans (Nat.le_of_eq hnext) hlt⟩
  | closed counter =>
    have hpos : 0 < counter.toNat := h
    have hcounter : counter.toNat ≤ limit := hle
    have hnext : (counter - 1).toNat = counter.toNat - 1 := toNat_sub_one rfl hpos
    have hback : (counter - 1).toNat + 1 = counter.toNat := by omega
    exact ⟨hback, Nat.le_trans (Nat.le_of_eq hnext) (by omega)⟩
  | _ => exact ⟨rfl, hle⟩

/-- The counter is the number of groups that were opened and not closed since. -/
theorem Counts.toNat_add (h : Counts limit counter events last) (hlimit : limit < UInt64.size)
    (hle : counter.toNat ≤ limit) :
    last.toNat + events.countP Event.isClosing =
        counter.toNat + events.countP Event.isOpening ∧ last.toNat ≤ limit := by
  induction h with
  | nil => exact ⟨rfl, hle⟩
  | @cons event events _ last hcounter hallowed _ ih =>
    subst hcounter
    obtain ⟨hnext, hnextLe⟩ := hallowed.toNat_add hlimit hle
    obtain ⟨hevents, hlast⟩ := ih hnextLe
    refine ⟨?_, hlast⟩
    rw [← List.singleton_append, List.countP_append, List.countP_append]
    omega

end Counts

/-! ## Courses that keep the counter in order -/

/-- The reader of operands behind blanks found nothing. -/
def Reader.FoundNothing : (reader : Reader) → Except Stop reader.Value → Prop
  | .joinedOperand, .ok none => True
  | _, _ => False

theorem foundNothing_iff {outcome : Except Stop (Option Filter)} :
    Reader.FoundNothing .joinedOperand outcome ↔ outcome = .ok none := by
  rcases outcome with stop | _ | right
  · exact ⟨nofun, nofun⟩
  · exact ⟨fun _ => rfl, fun _ => trivial⟩
  · exact ⟨nofun, nofun⟩

/-- The last thing that happened is that the reader of operands behind blanks was asked, or that it
has asked for an operand where no group starts, in vain. -/
inductive JustAsked (entry : Desk) : List Event → Prop
  | asked (earlier : List Event) : JustAsked entry (earlier ++ [.asked .joinedOperand entry])
  | refused (earlier : List Event) {tried exit : Desk} {stop : Stop} :
    tried.cursor.peek ≠ some '(' → JustAsked entry (earlier ++ [.asked .joinedOperand entry,
      .asked .operand tried, .replied .operand tried (.error stop) exit])

/-- What is known of an event from what happened before and after it. Who is asked replies. Who has
found something has left the counter as it was, where nothing was found no group was opened, and an
operand where no group starts changes no counter and asks nobody. -/
def Event.InOrder (before after : List Event) : Event → Prop
  | .asked reader entry => ∃ outcome exit, .replied reader entry outcome exit ∈ after
  | .replied reader entry outcome exit =>
    (∀ value, outcome = .ok value → exit.counter = entry.counter) ∧
      (reader.FoundNothing outcome → JustAsked entry before) ∧
      (reader = .operand → entry.cursor.peek ≠ some '(' → exit.counter = entry.counter ∧
        ∃ earlier, before = earlier ++ [.asked .operand entry])
  | .tried _ entry _ exit => exit.counter = entry.counter
  | _ => True

/-- Why a course ended, if it found nothing. -/
def stopOf {α : Type} : Except Stop α → Option Stop
  | .error stop => some stop
  | .ok _ => none

theorem stopOf_eq_some {α : Type} {outcome : Except Stop α} {stop : Stop}
    (h : stopOf outcome = some stop) : outcome = .error stop := by
  rcases outcome with stop' | value
  · exact congrArg Except.error (Option.some.inj h)
  · cases h

/-- What every part of a course keeps to, from one counter to another. If one of the readers comes
to a stop, then that is how it ends, unless the reader is one of operands where no group starts. -/
structure Proceeds (limit : Nat) (counter : UInt64) (events : List Event) (last : UInt64)
    (ending : Option Stop) : Prop where
  counts : Counts limit counter events last
  inOrder : ∀ before event after, events = before ++ event :: after → event.InOrder before after
  tellsOn : ∀ reader entry stop exit, .replied reader entry (.error stop) exit ∈ events →
    (reader = .operand → entry.cursor.peek = some '(') → ending = some stop

/-- The course proceeds from the desk, and what it finds leaves the counter as it was. -/
structure Course.Orderly {α : Type} (limit : Nat) (entry : Desk) (course : Course α) : Prop where
  proceeds : Proceeds limit entry.counter course.events course.desk.counter (stopOf course.outcome)
  kept : ∀ value, course.outcome = .ok value → course.desk.counter = entry.counter

section Orderly

variable {α β : Type} {limit : Nat} {entry : Desk} {counter middle last : UInt64}
  {events events' : List Event} {ending : Option Stop}

theorem JustAsked.prepend {before : List Event} (h : JustAsked entry before)
    (earlier : List Event) : JustAsked entry (earlier ++ before) := by
  cases h with
  | asked earlier' =>
    rw [← List.append_assoc]
    exact .asked _
  | refused earlier' hpeek =>
    rw [← List.append_assoc]
    exact .refused _ hpeek

theorem Event.InOrder.extend {before after : List Event} {event : Event}
    (h : event.InOrder before after) (earlier later : List Event) :
    event.InOrder (earlier ++ before) (after ++ later) := by
  cases event with
  | asked reader entry =>
    obtain ⟨outcome, exit, hmem⟩ := h
    exact ⟨outcome, exit, List.mem_append_left later hmem⟩
  | replied reader entry outcome exit =>
    obtain ⟨hkept, hnone, hleaf⟩ := h
    refine ⟨hkept, fun hnothing => (hnone hnothing).prepend earlier, fun hreader hpeek => ?_⟩
    obtain ⟨hsame, earlier', rfl⟩ := hleaf hreader hpeek
    exact ⟨hsame, earlier ++ earlier', (List.append_assoc _ _ _).symm⟩
  | tried connective entry taken exit => exact h
  | _ => trivial

theorem proceeds_nil (limit : Nat) (counter : UInt64) (ending : Option Stop) :
    Proceeds limit counter [] counter ending :=
  ⟨.nil, by simp, by simp⟩

/-- A single event that is no reply. -/
theorem proceeds_singleton {event : Event} (hcounter : event.counter = counter)
    (hallowed : event.Allowed limit) (horder : event.InOrder [] [])
    (hreply : ∀ reader entry outcome exit, event ≠ .replied reader entry outcome exit) :
    Proceeds limit counter [event] event.nextCounter ending := by
  refine ⟨.cons hcounter hallowed .nil, fun before event' after heq => ?_,
    fun reader entry stop exit hmem => ?_⟩
  · obtain ⟨rfl, heq⟩ | ⟨-, heq⟩ := List.singleton_eq_append_iff.mp heq
    · obtain ⟨rfl, rfl⟩ := List.cons.inj heq
      exact horder
    · cases heq
  · exact absurd (List.mem_singleton.mp hmem).symm (hreply reader entry (.error stop) exit)

/-- What has not come to a stop goes on. -/
theorem Proceeds.append (h : Proceeds limit counter events middle none)
    (h' : Proceeds limit middle events' last ending) :
    Proceeds limit counter (events ++ events') last ending := by
  refine ⟨h.counts.append h'.counts, fun before event after heq => ?_,
    fun reader entry stop exit hmem hreader => ?_⟩
  · rcases List.append_eq_append_iff.mp heq with ⟨between, rfl, hevents'⟩ | ⟨between, rfl, hafter⟩
    · simpa using (h'.inOrder between event after hevents').extend events []
    · rcases between with _ | ⟨event', between⟩
      · simpa using (h'.inOrder [] event after hafter.symm).extend before []
      · obtain ⟨rfl, rfl⟩ := List.cons.inj hafter
        exact (h.inOrder before event between rfl).extend [] events'
  · rcases List.mem_append.mp hmem with hmem | hmem
    · cases h.tellsOn reader entry stop exit hmem hreader
    · exact h'.tellsOn reader entry stop exit hmem hreader

theorem Act.Quiet.orderly {act : Act α} (h : act.Quiet) (limit : Nat) (entry : Desk) :
    (act entry).Orderly limit entry := by
  obtain ⟨hcounter, hevents⟩ := h entry
  refine ⟨?_, fun _ _ => hcounter⟩
  rw [hevents, hcounter]
  exact proceeds_nil _ _ _

/-- One act after another. -/
theorem Course.Orderly.andThen {act : Act α} {next : α → Act β}
    (h : (act entry).Orderly limit entry)
    (hnext : ∀ value desk, (next value desk).Orderly limit desk) :
    ((act >>= next) entry).Orderly limit entry := by
  obtain ⟨hproceeds, hkept⟩ := h
  rw [Act.bind_eq, Course.andThen]
  rcases houtcome : (act entry).outcome with stop | value
  · rw [houtcome] at hproceeds
    exact ⟨hproceeds, by simp⟩
  · rw [houtcome] at hproceeds
    have hsecond := hnext value (act entry).desk
    exact ⟨hproceeds.append hsecond.proceeds,
      fun value' hvalue' => (hsecond.kept value' hvalue').trans (hkept value houtcome)⟩

/-- What is done where the cursor has moved. -/
theorem Course.Orderly.of_counter {course : Course α} {entry' : Desk}
    (h : course.Orderly limit entry') (hcounter : entry'.counter = entry.counter) :
    course.Orderly limit entry :=
  ⟨hcounter ▸ h.proceeds, fun value hvalue => (h.kept value hvalue).trans hcounter⟩

/-- One reader that is asked and replies. -/
theorem Course.Orderly.asCall {reader : Reader} {act : Act reader.Value}
    (h : (act entry).Orderly limit entry)
    (hnone : reader.FoundNothing (act entry).outcome →
      JustAsked entry (.asked reader entry :: (act entry).events))
    (hleaf : reader = .operand → entry.cursor.peek ≠ some '(' →
      (act entry).desk.counter = entry.counter ∧ (act entry).events = []) :
    (asCall reader act entry).Orderly limit entry := by
  obtain ⟨⟨hcounts, horder, htells⟩, hkept⟩ := h
  have hreplied : (Event.replied reader entry (act entry).outcome (act entry).desk).InOrder
      (.asked reader entry :: (act entry).events) [] := by
    refine ⟨hkept, hnone, fun hreader hpeek => ?_⟩
    obtain ⟨hsame, hevents⟩ := hleaf hreader hpeek
    subst hreader
    exact ⟨hsame, [], by rw [hevents, List.nil_append]⟩
  refine ⟨⟨?_, ?_, fun reader' entry' stop exit hmem hreader => ?_⟩, hkept⟩
  · exact .cons rfl trivial (hcounts.append (.cons rfl trivial .nil))
  · intro before event after heq
    rcases before with _ | ⟨first, before⟩
    · obtain ⟨rfl, rfl⟩ := List.cons.inj heq
      exact ⟨_, _, List.mem_append_right _ List.mem_cons_self⟩
    · obtain ⟨rfl, htail⟩ := List.cons.inj heq
      rcases List.append_eq_append_iff.mp htail with
        ⟨between, rfl, hlast⟩ | ⟨between, hevents, hlast⟩
      · obtain ⟨rfl, hlast⟩ | ⟨-, hlast⟩ := List.singleton_eq_append_iff.mp hlast
        · obtain ⟨rfl, rfl⟩ := List.cons.inj hlast
          simpa using hreplied
        · cases hlast
      · rcases between with _ | ⟨event', between⟩
        · obtain ⟨rfl, rfl⟩ := List.cons.inj hlast
          rw [List.append_nil] at hevents
          rwa [hevents] at hreplied
        · obtain ⟨rfl, rfl⟩ := List.cons.inj hlast
          exact (horder before event between hevents).extend [.asked reader entry] _
  · rcases List.mem_cons.mp hmem with hmem | hmem
    · cases hmem
    · rcases List.mem_append.mp hmem with hmem | hmem
      · exact htells reader' entry' stop exit hmem hreader
      · obtain ⟨rfl, -, houtcome, -⟩ := Event.replied.inj (List.mem_singleton.mp hmem)
        exact congrArg stopOf (eq_of_heq houtcome).symm

theorem tryConnective_orderly (connective : Connective) (limit : Nat) (entry : Desk) :
    (tryConnective connective entry).Orderly limit entry := by
  have hcounter : (eatConnective connective entry).desk.counter = entry.counter := by
    rw [eatConnective_eq]
    split <;> rfl
  obtain ⟨taken, exit, htry, heat⟩ := tryConnective_eq connective entry
  rw [heat] at hcounter
  rw [htry]
  refine ⟨?_, fun _ _ => hcounter⟩
  dsimp only at hcounter ⊢
  rw [hcounter]
  exact proceeds_singleton rfl trivial hcounter (by simp)

end Orderly

/-! ## Readers keep the counter in order -/

/-- An operand where no group starts is read without asking anybody. -/
def LeavesAlone (ask : (reader : Reader) → Act reader.Value) : Prop :=
  ∀ desk : Desk, desk.cursor.peek ≠ some '(' →
    (ask .operand desk).desk.counter = desk.counter ∧
      ((ask .operand desk).events = [] ∨ (ask .operand desk).events = [.asked .operand desk,
        .replied .operand desk (ask .operand desk).outcome (ask .operand desk).desk])

section Readers

variable {settings : Settings} {ask : (reader : Reader) → Act reader.Value} {entry : Desk}
  {limit : Nat}

/-- The only stop that is not told on is that of an operand where no group starts. -/
theorem Proceeds.of_leaf {desk : Desk} {ending ending' : Option Stop} {last : UInt64}
    (h : Proceeds limit desk.counter (ask .operand desk).events last ending)
    (hleaf : LeavesAlone ask) (hpeek : desk.cursor.peek ≠ some '(') :
    Proceeds limit desk.counter (ask .operand desk).events last ending' := by
  refine ⟨h.counts, h.inOrder, fun reader entry stop exit hmem hreader => ?_⟩
  rcases (hleaf desk hpeek).2 with hevents | hevents
  · rw [hevents] at hmem
    cases hmem
  · rw [hevents] at hmem
    simp at hmem
    obtain ⟨rfl, rfl, -, -⟩ := hmem
    exact absurd (hreader rfl) hpeek

theorem orGoBack_orderly {start : Nat} {desk : Desk} (hleaf : LeavesAlone ask)
    (h : (ask .operand desk).Orderly limit desk) (hpeek : desk.cursor.peek ≠ some '(') :
    (orGoBack start (ask .operand) desk).Orderly limit desk := by
  have hcounter := (hleaf desk hpeek).1
  rw [orGoBack_eq]
  rcases (ask .operand desk).outcome with stop | right
  · dsimp only
    split
    · exact ⟨h.proceeds.of_leaf hleaf hpeek, fun _ _ => hcounter⟩
    · exact ⟨h.proceeds.of_leaf hleaf hpeek, by simp⟩
  · exact ⟨h.proceeds.of_leaf hleaf hpeek, fun _ _ => hcounter⟩

/-- A group that closes has the counter go up and down again. One that fails leaves it raised, but
then everything stops. -/
theorem enclosed_orderly {opening : Nat} {desk : Desk} (hlimit : limit < UInt64.size)
    (hopened : entry.counter.toNat < limit) (hcounter : desk.counter = entry.counter + 1)
    (h : (ask .disjunction desk).Orderly limit desk) :
    Course.Orderly limit entry { (ask .disjunction >>= closeIn opening) desk with
      events := .opened entry.counter ::
        ((ask .disjunction >>= closeIn opening) desk).events } := by
  obtain ⟨hproceeds, hkept⟩ := h
  rw [hcounter] at hproceeds hkept
  have hopening {ending : Option Stop} :
      Proceeds limit entry.counter [.opened entry.counter] (entry.counter + 1) ending :=
    proceeds_singleton rfl hopened trivial (by simp)
  rw [Act.bind_eq, Course.andThen]
  rcases houtcome : (ask .disjunction desk).outcome with stop | inner
  · rw [houtcome] at hproceeds
    exact ⟨hopening.append hproceeds, by simp⟩
  · -- Inside of the group the counter was kept, so that it comes back to what it was.
    rw [houtcome, hkept inner houtcome] at hproceeds
    rcases closeIn_cases opening inner (ask .disjunction desk).desk with
      hclose | ⟨stop, hclose⟩
    · have hpos : 0 < (entry.counter + 1).toNat := by
        rw [toNat_add_one rfl (by omega)]
        exact Nat.succ_pos _
      have hclosing : Proceeds limit (entry.counter + 1) [.closed (entry.counter + 1)]
          (entry.counter + 1 - 1) none := proceeds_singleton rfl hpos trivial (by simp)
      have hback : entry.counter + 1 - 1 = entry.counter := UInt64.add_sub_cancel _ _
      simp only [hclose, hkept inner houtcome]
      exact ⟨hopening.append (hproceeds.append hclosing), fun _ _ => hback⟩
    · simp only [hclose, hkept inner houtcome]
      exact ⟨hopening.append (hproceeds.append (proceeds_nil _ _ _)), by simp⟩

theorem group_orderly (hask : ∀ desk, (ask .disjunction desk).Orderly settings.maxDepth desk)
    (hdepth : settings.maxDepth < UInt64.size) (entry : Desk) :
    (Reader.group.body settings ask entry).Orderly settings.maxDepth entry := by
  rw [Reader.body, look_bind, depth_bind]
  by_cases hlimit : settings.maxDepth ≤ entry.counter.toNat
  · simp only [if_pos hlimit]
    exact (quiet_fail _).orderly _ entry
  · simp only [if_neg hlimit, move_bind, countUp_bind]
    exact enclosed_orderly hdepth (Nat.lt_of_not_le hlimit) rfl (hask _)

theorem joinedOperand_orderly (hask : ∀ reader desk, (ask reader desk).Orderly limit desk)
    (hleaf : LeavesAlone ask) (entry : Desk) :
    (Reader.joinedOperand.body settings ask entry).Orderly limit entry := by
  obtain hbody | ⟨desk, hcounter, -, ⟨-, hbody⟩ | ⟨hpeek, hbody⟩⟩ :=
    joinedOperand_body_cases settings ask entry <;> rw [hbody]
  · exact (quiet_pure none).orderly limit entry
  · exact ((hask .group desk).andThen fun right desk =>
      (quiet_pure (some right)).orderly limit desk).of_counter hcounter
  · exact (orGoBack_orderly hleaf (hask .operand desk) hpeek).of_counter hcounter

theorem orGoBack_eq_none {start : Nat} {act : Act Filter} {desk : Desk}
    (h : (orGoBack start act desk).outcome = .ok none) :
    ∃ stop, (act desk).outcome = .error stop ∧ stop.isNoOperand = true ∧
      (orGoBack start act desk).events = (act desk).events := by
  rw [orGoBack_eq] at h ⊢
  rcases houtcome : (act desk).outcome with stop | right
  · rw [houtcome] at h
    by_cases hstop : stop.isNoOperand = true
    · exact ⟨stop, rfl, hstop, by simp [hstop]⟩
    · simp [hstop] at h
  · rw [houtcome] at h
    cases h

/-- Where nothing is found no group was opened. -/
theorem justAsked_of_foundNothing (hleaf : LeavesAlone ask) (entry : Desk)
    (h : (Reader.joinedOperand.body settings ask entry).outcome = .ok none) :
    JustAsked entry (.asked .joinedOperand entry ::
      (Reader.joinedOperand.body settings ask entry).events) := by
  obtain hbody | ⟨desk, -, -, ⟨-, hbody⟩ | ⟨hpeek, hbody⟩⟩ :=
    joinedOperand_body_cases settings ask entry <;> rw [hbody] at h ⊢
  · exact .asked []
  · rw [Act.bind_eq, Course.andThen] at h
    rcases houtcome : (ask .group desk).outcome with stop | right
    · rw [houtcome] at h
      cases h
    · rw [houtcome] at h
      cases h
  · obtain ⟨stop, hstop, -, hsame⟩ := orGoBack_eq_none h
    rw [hsame]
    rcases (hleaf desk hpeek).2 with hevents | hevents
    · rw [hevents]
      exact .asked []
    · rw [hevents, hstop]
      exact .refused [] hpeek

/-- What a reader does keeps the counter in order, given the readers that it asks. -/
theorem body_orderly (hask : ∀ reader desk, (ask reader desk).Orderly settings.maxDepth desk)
    (hleaf : LeavesAlone ask) (hdepth : settings.maxDepth < UInt64.size) (reader : Reader)
    (entry : Desk) : (reader.body settings ask entry).Orderly settings.maxDepth entry := by
  cases reader with
  | disjunction => exact (hask .conjunction entry).andThen fun left desk => hask _ desk
  | moreDisjuncts left =>
    refine (tryConnective_orderly .or _ entry).andThen fun taken desk => ?_
    cases taken with
    | true => exact (hask .conjunction desk).andThen fun right desk => hask _ desk
    | false => exact (quiet_pure left).orderly _ desk
  | conjunction => exact (hask .operand entry).andThen fun left desk => hask _ desk
  | moreConjuncts left =>
    refine (tryConnective_orderly .and _ entry).andThen fun taken desk => ?_
    cases taken with
    | true => exact (hask .operand desk).andThen fun right desk => hask _ desk
    | false =>
      refine (hask .joinedOperand desk).andThen fun found desk => ?_
      cases found with
      | some right => exact hask _ desk
      | none => exact (quiet_pure left).orderly _ desk
  | joinedOperand => exact joinedOperand_orderly hask hleaf entry
  | operand =>
    by_cases hpeek : entry.cursor.peek = some '('
    · rw [Reader.body, look_bind, hpeek]
      exact hask .group entry
    · obtain ⟨hcounter, hevents⟩ := operand_body_quiet settings ask hpeek
      refine ⟨?_, fun _ _ => hcounter⟩
      rw [hcounter, hevents]
      exact proceeds_nil _ _ _
  | group => exact group_orderly (hask .disjunction) hdepth entry

end Readers

theorem perform_leavesAlone (settings : Settings) (bound : Nat) :
    LeavesAlone (perform settings bound) := by
  intro desk hpeek
  cases bound with
  | zero => exact ⟨rfl, .inl rfl⟩
  | succ bound =>
    obtain ⟨hcounter, hevents⟩ := operand_body_quiet settings (perform settings bound) hpeek
    refine ⟨hcounter, .inr ?_⟩
    rw [perform, asCall, hevents]
    rfl

/-- The readers keep the counter in order, however deeply they ask each other. -/
theorem perform_orderly {settings : Settings} (hdepth : settings.maxDepth < UInt64.size)
    (bound : Nat) (reader : Reader) (entry : Desk) :
    (perform settings bound reader entry).Orderly settings.maxDepth entry := by
  induction bound generalizing reader entry with
  | zero => exact (quiet_halt .unfinished).orderly _ entry
  | succ bound ih =>
    have hleaf := perform_leavesAlone settings bound
    refine (body_orderly ih hleaf hdepth reader entry).asCall (fun hnone => ?_) ?_
    · cases reader with
      | joinedOperand =>
        exact justAsked_of_foundNothing hleaf entry (foundNothing_iff.mp hnone)
      | _ => exact absurd hnone id
    · rintro rfl hpeek
      exact operand_body_quiet settings (perform settings bound) hpeek

theorem course_orderly {settings : Settings} (hdepth : settings.maxDepth < UInt64.size)
    (input : String) : (settings.course input).Orderly settings.maxDepth (.start input) := by
  refine ((quiet_move _).orderly _ _).andThen fun _ desk => ?_
  refine (perform_orderly hdepth _ .disjunction desk).andThen fun filter desk => ?_
  exact (endIn_quiet filter).orderly _ desk

end FilterQuery
