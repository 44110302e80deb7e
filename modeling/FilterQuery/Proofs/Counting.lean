import FilterQuery.Proofs.Orderly
import FilterQuery.Proofs.Whereabouts

/-!
# The counter is the number of open groups

Whole texts are read with a counter that starts at zero.

* `Course.CountsGroups`: what this comes to. At any time the counter is the number of groups that
  were opened and not closed; at any call it is the number of groups that are open in the text; and
  where it stays raised reading is over.
* `course_countsGroups`: so it is in the course of reading any text.
-/

namespace FilterQuery

open Text

/-- The event is that a reader is asked, or that a connective is tried, at the desk. -/
def Event.IsCall (desk : Desk) : Event → Prop
  | asked _ entry => entry = desk
  | tried _ entry _ _ => entry = desk
  | _ => False

/-- What is known of the counter in a course in which groups are counted from the start. -/
structure Course.CountsGroups {α : Type} (limit : Nat) (text : List Char) (course : Course α) :
    Prop where
  /-- At any time the counter is the number of groups that were opened and not closed, within the
  limit. -/
  exactly : ∀ before event after, course.events = before ++ event :: after →
    event.counter.toNat + before.countP Event.isClosing = before.countP Event.isOpening ∧
      event.counter.toNat ≤ limit
  /-- At any call, as many groups are open in the text up to the cursor. -/
  inText : ∀ event ∈ course.events, ∀ desk, event.IsCall desk →
    ∃ consumed, text = consumed ++ desk.cursor.unread ∧
      desk.cursor.position = byteLength consumed ∧
      desk.counter.toNat = (groupsOf consumed).opened ∧
      desk.counter.toNat ≤ consumed.count '('
  /-- The counter goes up by one, and does not start over. -/
  goesUp : ∀ counter, .opened counter ∈ course.events →
    counter.toNat < limit ∧ (counter + 1).toNat = counter.toNat + 1
  /-- The counter goes down by one, from above zero. -/
  goesDown : ∀ counter, .closed counter ∈ course.events →
    0 < counter.toNat ∧ (counter - 1).toNat + 1 = counter.toNat
  /-- Every reader that is asked replies. -/
  replies : ∀ before reader entry after, course.events = before ++ .asked reader entry :: after →
    ∃ outcome exit, .replied reader entry outcome exit ∈ after
  /-- A reader that has found something, or found that nothing is joined, leaves the counter as it
  was when it was asked. -/
  kept : ∀ reader entry value exit, .replied reader entry (.ok value) exit ∈ course.events →
    exit.counter = entry.counter
  /-- Where nothing is joined no group was opened on the way. -/
  nothingOpened : ∀ before entry exit after,
    course.events = before ++ .replied .joinedOperand entry (.ok none) exit :: after →
    JustAsked entry before
  /-- Where no group starts, a reader of operands opens none. -/
  leaf : ∀ before entry outcome exit after,
    course.events = before ++ .replied .operand entry outcome exit :: after →
    entry.cursor.peek ≠ some '(' → ∃ earlier, before = earlier ++ [.asked .operand entry]
  /-- Any other stop is the end of it all. -/
  stops : ∀ reader entry stop exit, .replied reader entry (.error stop) exit ∈ course.events →
    (reader = .operand → entry.cursor.peek = some '(') → course.outcome = .error stop
  /-- In particular, where a group was opened and the counter stays raised, there is a stop, and it
  is the end of it all. -/
  raised : ∀ reader entry outcome exit, .replied reader entry outcome exit ∈ course.events →
    exit.counter ≠ entry.counter → ∃ stop, outcome = .error stop ∧ course.outcome = .error stop

section Texts

variable (settings : Settings) (input : String) (hdepth : settings.maxDepth < UInt64.size)

include hdepth

/-- A call is made where one of the readers starts. -/
theorem exists_visit_of_isCall {event : Event} {desk : Desk}
    (h : event ∈ (settings.course input).events) (hcall : event.IsCall desk) :
    ∃ visit ∈ visits settings .disjunction ⟨skipBlanks input.toList, 0⟩,
      desk.At input.toList visit.state := by
  have hfaithful := (course_follows hdepth input).faithful event h
  cases event with
  | asked reader entry =>
    obtain rfl : entry = desk := hcall
    obtain ⟨state, hmem, hat⟩ := hfaithful
    exact ⟨_, hmem, hat⟩
  | tried connective entry taken exit =>
    obtain rfl : entry = desk := hcall
    exact hfaithful.1
  | _ => exact hcall.elim

theorem course_inText {event : Event} {desk : Desk} (h : event ∈ (settings.course input).events)
    (hcall : event.IsCall desk) : ∃ consumed, input.toList = consumed ++ desk.cursor.unread ∧
      desk.cursor.position = byteLength consumed ∧
      desk.counter.toNat = (groupsOf consumed).opened ∧
      desk.counter.toNat ≤ consumed.count '(' := by
  obtain ⟨visit, hmem, hat⟩ := exists_visit_of_isCall settings input hdepth h hcall
  have hstart : State.ReachedIn settings.maxDepth input.toList ⟨input.toList, 0⟩ :=
    ⟨[], rfl, reached_nil _⟩
  have hreached : visit.state.ReachedIn settings.maxDepth input.toList :=
    visits_reachedIn settings input.toList .disjunction _ hstart.skipBlanks nofun visit hmem
  obtain ⟨consumed, htext, hcursor⟩ := hat.cursor
  obtain ⟨hopened, -, hcount⟩ := hreached.le_count htext
  refine ⟨consumed, ?_, ?_, ?_, ?_⟩
  · rw [hat.unread_eq, htext]
  · rw [hcursor]
    rfl
  · rw [hat.counter, hopened]
  · rwa [hat.counter]

/-- In the course of reading a text the counter is the number of groups that are open, and does not
come away from it where readers go back. Reading comes to an end, with the result that it should
have. -/
theorem course_countsGroups :
    settings.parseInPlace input = some (settings.parse input) ∧
      (settings.course input).CountsGroups settings.maxDepth input.toList := by
  obtain ⟨⟨hcounts, horder, htells⟩, -⟩ := course_orderly hdepth input
  refine ⟨parseInPlace_eq hdepth input, ?_⟩
  have hmem : ∀ {event}, event ∈ (settings.course input).events →
      ∃ before after, event.InOrder before after := by
    intro event hevent
    obtain ⟨before, after, heq⟩ := List.append_of_mem hevent
    exact ⟨before, after, horder before event after heq⟩
  exact {
    exactly := fun before event after heq => by
      rw [heq] at hcounts
      obtain ⟨middle, hbefore, hevent⟩ := hcounts.split
      obtain ⟨hadd, hle⟩ := hbefore.toNat_add hdepth (Nat.zero_le _)
      cases hevent with
      | cons hcounter _ _ =>
        rw [hcounter]
        exact ⟨hadd.trans (Nat.zero_add _), hle⟩
    inText := fun event hevent desk hcall => course_inText settings input hdepth hevent hcall
    goesUp := fun counter hevent => by
      have hlt : counter.toNat < settings.maxDepth := hcounts.allowed hevent
      exact ⟨hlt, toNat_add_one rfl (by omega)⟩
    goesDown := fun counter hevent => by
      have hpos : 0 < counter.toNat := hcounts.allowed hevent
      have hdown : (counter - 1).toNat = counter.toNat - 1 := toNat_sub_one rfl hpos
      exact ⟨hpos, by omega⟩
    replies := fun before reader entry after heq => horder before _ after heq
    kept := fun reader entry value exit hevent => by
      obtain ⟨before, after, hkept, -⟩ := hmem hevent
      exact hkept value rfl
    nothingOpened := fun before entry exit after heq => (horder before _ after heq).2.1 trivial
    leaf := fun before entry outcome exit after heq hpeek =>
      ((horder before _ after heq).2.2 rfl hpeek).2
    stops := fun reader entry stop exit hevent hreader =>
      stopOf_eq_some (htells reader entry stop exit hevent hreader)
    raised := fun reader entry outcome exit hevent hraised => by
      obtain ⟨before, after, hkept, -, hleaf⟩ := hmem hevent
      rcases outcome with stop | value
      · refine ⟨stop, rfl, stopOf_eq_some (htells reader entry stop exit hevent fun hreader => ?_)⟩
        exact by_contra fun hpeek => hraised (hleaf hreader hpeek).1
      · exact absurd (hkept value rfl) hraised }

end Texts

/-- A group that closes, an operand behind blanks, and a group that is too deep in one that stays
open. -/
theorem course_countsGroups_tooDeep :
    (⟨1, none, true⟩ : Settings).maxDepth < UInt64.size ∧
      Settings.parseInPlace ⟨1, none, true⟩ "(a:1) b:2 or ((" =
        some (Settings.parse ⟨1, none, true⟩ "(a:1) b:2 or ((") ∧
      (Settings.course ⟨1, none, true⟩ "(a:1) b:2 or ((").CountsGroups 1
        "(a:1) b:2 or ((".toList := by
  have hdepth : (⟨1, none, true⟩ : Settings).maxDepth < UInt64.size := by decide
  exact ⟨hdepth, course_countsGroups ⟨1, none, true⟩ "(a:1) b:2 or ((" hdepth⟩

end FilterQuery
