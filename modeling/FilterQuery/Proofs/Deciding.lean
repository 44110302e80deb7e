import FilterQuery.Proofs.Orderly
import FilterQuery.Proofs.Threshold

/-!
# What blanks decide

Blanks behind an operand may join another operand to it. Whether they do is decided by tests that
look ahead and by an operand that is tried, and what was tried may have moved the cursor. All of
this comes to one look at the text.

* `JoinsNothing`: what the text shows at blanks that do not join anything. `joinsNothing_iff` is the
  same by the tests that the readers know.
* `joinedOperand_of_joinsNothing`, `joinedOperand_of_joins`: so it is with the reader of operands
  behind blanks. In any other text it is the reader of operands, whatever that comes to.
* `course_decidesJoining`: in the course of reading a text, what joins nothing leaves no trace, and
  what fails otherwise fails for good.
-/

namespace FilterQuery

open Text

/-! ## Text that is not joined -/

/-- There is no blank, or behind the blanks comes the end, a closing parenthesis, the word `or` or
text that is no operand: no opening parenthesis, no sign and no letters with the separator right
behind them. -/
def JoinsNothing (text : List Char) : Prop :=
  Stops isBlank text ∨ skipBlanks text = [] ∨ (∃ rest, skipBlanks text = ')' :: rest) ∨
    (∃ rest, skipBlanks text = Connective.or.word.toList ++ rest ∧ Place.EndsWord rest) ∨
    ¬((∃ rest, skipBlanks text = '(' :: rest) ∨ (∃ rest, skipBlanks text = '+' :: rest) ∨
      (∃ rest, skipBlanks text = '-' :: rest) ∨
      ∃ name rest, Run isKeyChar name ∧ skipBlanks text = name ++ ':' :: rest)

theorem startsOperand_eq_false_iff {text : List Char} :
    startsOperand text = false ↔ ¬((∃ rest, text = '(' :: rest) ∨ (∃ rest, text = '+' :: rest) ∨
      (∃ rest, text = '-' :: rest) ∨
      ∃ name rest, Run isKeyChar name ∧ text = name ++ ':' :: rest) := by
  rw [← Bool.not_eq_true, startsOperand_iff]
  have hsign : (∃ polarity rest, text = Polarity.sign polarity :: rest) ↔
      (∃ rest, text = '+' :: rest) ∨ ∃ rest, text = '-' :: rest := by
    constructor
    · rintro ⟨_ | _, rest, rfl⟩
      · exact .inl ⟨rest, rfl⟩
      · exact .inr ⟨rest, rfl⟩
    · rintro (⟨rest, rfl⟩ | ⟨rest, rfl⟩)
      · exact ⟨.includes, rest, rfl⟩
      · exact ⟨.excludes, rest, rfl⟩
  rw [hsign, or_assoc]

theorem endsConjunction_iff {text : List Char} : endsConjunction text = true ↔
    text = [] ∨ (∃ rest, text = ')' :: rest) ∨
      ∃ rest, text = Connective.or.word.toList ++ rest ∧ Place.EndsWord rest := by
  simp only [endsConjunction, Bool.or_eq_true, List.isEmpty_iff, beq_iff_eq,
    List.head?_eq_some_iff, Option.isSome_iff_exists, afterWord?_eq_some_iff, Place.endsWord_iff,
    or_assoc]

theorem stops_isBlank_iff {text : List Char} :
    Stops isBlank text ↔ (skipBlanks text).length = text.length := by
  constructor
  · intro h
    rw [skipBlanks_of_stops h]
  · intro h
    have hsame : skipBlanks text = text := (List.dropWhile_sublist isBlank).eq_of_length h
    exact hsame ▸ stops_skipBlanks text

theorem joinsNothing_iff {text : List Char} : JoinsNothing text ↔
    ((skipBlanks text).length = text.length ∨ endsConjunction (skipBlanks text) = true) ∨
      startsOperand (skipBlanks text) = false := by
  simp only [JoinsNothing, stops_isBlank_iff, endsConjunction_iff, startsOperand_eq_false_iff,
    or_assoc]

/-! ## What the reader of operands behind blanks does -/

section Joining

variable {settings : Settings} {state : State}

/-- Text that is not joined is left alone, whether it was looked at or tried. -/
theorem joinedOperand_of_joinsNothing (h : JoinsNothing state.unread) :
    joinedOperand settings state = .done none state [] := by
  rw [joinedOperand_eq]
  rcases joinsNothing_iff.mp h with hends | hstart
  · rw [if_pos hends]
  · split
    · rfl
    · obtain ⟨fault, hreply, hcause, hgroup⟩ :=
        operand_of_not_startsOperand settings state.depth hstart
      rw [hreply, joinedReply, if_pos (by simp [hcause, hgroup])]

/-- In front of any other text it is the reader of operands, behind the blanks. -/
theorem joinedOperand_of_joins (h : ¬JoinsNothing state.unread) :
    joinedOperand settings state =
      (operand settings ⟨skipBlanks state.unread, state.depth⟩).andThen fun right next =>
        .done (some right) next [] := by
  rw [joinsNothing_iff, not_or, Bool.not_eq_false] at h
  obtain ⟨hends, hstart⟩ := h
  rw [joinedOperand_eq, if_neg hends]
  by_cases hgroup : (skipBlanks state.unread).head? = some '('
  · exact joinedReply_group hgroup
  · rcases hreply : operand settings ⟨skipBlanks state.unread, state.depth⟩ with
      ⟨right, next, log⟩ | ⟨fault, log⟩
    · simp [joinedReply, Reply.after]
    · have hcause := isNoOperand_of_startsOperand hstart hgroup hreply
      simp [joinedReply, hcause]

/-- An operand that is joined is read behind the blanks. -/
theorem length_joined_lt {right : Filter} {next : State} {log : Log}
    (h : joinedOperand settings state = .done (some right) next log) :
    next.unread.length < (skipBlanks state.unread).length := by
  by_cases hnothing : JoinsNothing state.unread
  · cases (joinedOperand_of_joinsNothing hnothing).symm.trans h
  · rw [joinedOperand_of_joins hnothing] at h
    obtain ⟨right', middle, earlier, own, hread, hdone, -⟩ := Reply.andThen_eq_done_iff.mp h
    cases hdone
    exact length_operand_lt hread

end Joining

/-! ## Desks in a state -/

namespace Desk.At

variable {text : List Char} {state state' : State} {desk desk' : Desk}

/-- In one text, a state and a log leave no choice for the desk. -/
theorem eq_of_log (h : desk.At text state) (h' : desk'.At text state)
    (hlog : desk'.log = desk.log) : desk' = desk := by
  obtain ⟨⟨before, htext, hcursor⟩, hcounter⟩ := h
  obtain ⟨⟨before', htext', hcursor'⟩, hcounter'⟩ := h'
  obtain rfl := List.append_cancel_right (htext.symm.trans htext')
  have hcounters : desk'.counter = desk.counter :=
    UInt64.toNat_inj.mp (hcounter'.trans hcounter.symm)
  rw [Desk.mk.injEq]
  exact ⟨hcursor'.trans hcursor.symm, hcounters, hlog⟩

/-- With less text behind it, the cursor is further on. -/
theorem position_lt (h : desk.At text state) (h' : desk'.At text state')
    (hlt : state'.unread.length < state.unread.length) :
    desk.cursor.position < desk'.cursor.position := by
  obtain ⟨⟨before, htext, hcursor⟩, -⟩ := h
  obtain ⟨⟨before', htext', hcursor'⟩, -⟩ := h'
  rw [hcursor, hcursor']
  exact byteLength_lt_of_length_lt (htext.symm.trans htext') hlt

end Desk.At

section Tells

variable {settings : Settings} {text : List Char} {state : State} {entry exit : Desk}
  {outcome : Except Stop (Option Filter)}

/-- Where nothing is joined the desk is what it was. -/
theorem eq_none_of_joinsNothing (hat : entry.At text state)
    (htells : (joinedOperand settings state).Tells text entry outcome exit)
    (h : JoinsNothing entry.cursor.unread) : outcome = .ok none ∧ exit = entry := by
  rw [hat.unread_eq] at h
  rw [joinedOperand_of_joinsNothing h] at htells
  cases htells with
  | done hexit hlog => exact ⟨rfl, hat.eq_of_log hexit (hlog.trans (List.append_nil _))⟩

/-- Elsewhere the cursor has gone past the blanks and more, or there is an error. -/
theorem joined_or_error (hat : entry.At text state)
    (htells : (joinedOperand settings state).Tells text entry outcome exit)
    (h : ¬JoinsNothing entry.cursor.unread) :
    (∃ right, outcome = .ok (some right) ∧
      entry.cursor.skipBlanks.2.position < exit.cursor.position) ∨
      ∃ error, outcome = .error (.error error) := by
  rw [hat.unread_eq] at h
  have hjoined : joinedOperand settings state = _ := joinedOperand_of_joins h
  generalize hreply : joinedOperand settings state = reply at htells hjoined
  cases htells with
  | @done found next log _ hexit _ =>
    obtain ⟨right, middle, earlier, own, -, hdone, -⟩ := Reply.andThen_eq_done_iff.mp hjoined.symm
    cases hdone
    exact .inl ⟨right, rfl, hat.skipBlanks.position_lt hexit (length_joined_lt hreply)⟩
  | failed _ _ => exact .inr ⟨_, rfl⟩

end Tells

/-! ## Whole texts -/

/-- What blanks decide in a course. -/
structure Course.DecidesJoining {α : Type} (course : Course α) : Prop where
  /-- The reader of operands behind blanks always replies. -/
  replies : ∀ entry, .asked .joinedOperand entry ∈ course.events →
    ∃ outcome exit, .replied .joinedOperand entry outcome exit ∈ course.events
  /-- It joins nothing exactly if the text at the cursor says so. -/
  nothing_iff : ∀ entry outcome exit,
    .replied .joinedOperand entry outcome exit ∈ course.events →
    (outcome = .ok none ↔ JoinsNothing entry.cursor.unread)
  /-- Then cursor, counter and log are what they were. -/
  noTrace : ∀ entry exit, .replied .joinedOperand entry (.ok none) exit ∈ course.events →
    exit = entry
  /-- So they are where a connective is not there. -/
  untaken : ∀ connective entry exit, .tried connective entry false exit ∈ course.events →
    exit = entry
  /-- Otherwise there is an operand, read from behind the blanks on, or an error that is the end of
  it all. -/
  otherwise : ∀ entry outcome exit,
    .replied .joinedOperand entry outcome exit ∈ course.events →
    ¬JoinsNothing entry.cursor.unread →
    (∃ right, outcome = .ok (some right) ∧
      entry.cursor.skipBlanks.2.position < exit.cursor.position) ∨
    ∃ error, outcome = .error (.error error) ∧ course.outcome = .error (.error error)

section Texts

variable (settings : Settings) (input : String) (hdepth : settings.maxDepth < UInt64.size)

include hdepth

/-- What the reader of operands behind blanks comes to, wherever it is asked. -/
theorem joinedOperand_replied {entry exit : Desk} {outcome : Except Stop (Option Filter)}
    (h : .replied .joinedOperand entry outcome exit ∈ (settings.course input).events) :
    ∃ state, entry.At input.toList state ∧
      (joinedOperand settings state).Tells input.toList entry outcome exit := by
  obtain ⟨state, -, hat, htells⟩ := (course_follows hdepth input).faithful _ h
  exact ⟨state, hat, htells⟩

/-- In the course of reading a text, whether blanks join an operand to what stands before them is
decided by the text alone. If they do not, nothing is left of having tried. -/
theorem course_decidesJoining :
    settings.parseInPlace input = some (settings.parse input) ∧
      (settings.course input).DecidesJoining := by
  obtain ⟨⟨-, horder, htells⟩, -⟩ := course_orderly hdepth input
  refine ⟨parseInPlace_eq hdepth input, ?_⟩
  exact {
    replies := fun entry hevent => by
      obtain ⟨before, after, heq⟩ := List.append_of_mem hevent
      obtain ⟨outcome, exit, hreply⟩ := horder before _ after heq
      refine ⟨outcome, exit, ?_⟩
      rw [heq]
      exact List.mem_append_right before (List.mem_cons_of_mem _ hreply)
    nothing_iff := fun entry outcome exit hevent => by
      obtain ⟨state, hat, hreply⟩ := joinedOperand_replied settings input hdepth hevent
      refine ⟨fun hnone => by_contra fun hjoins => ?_,
        fun hnothing => (eq_none_of_joinsNothing hat hreply hnothing).1⟩
      rcases joined_or_error hat hreply hjoins with ⟨right, hsome, -⟩ | ⟨error, herror⟩
      · cases hnone.symm.trans hsome
      · cases hnone.symm.trans herror
    noTrace := fun entry exit hevent => by
      obtain ⟨state, hat, hreply⟩ := joinedOperand_replied settings input hdepth hevent
      by_cases hjoins : JoinsNothing entry.cursor.unread
      · exact (eq_none_of_joinsNothing hat hreply hjoins).2
      · rcases joined_or_error hat hreply hjoins with ⟨right, hsome, -⟩ | ⟨error, herror⟩
        · cases hsome
        · cases herror
    untaken := fun connective entry exit hevent =>
      ((course_follows hdepth input).faithful _ hevent).2 rfl
    otherwise := fun entry outcome exit hevent hjoins => by
      obtain ⟨state, hat, hreply⟩ := joinedOperand_replied settings input hdepth hevent
      rcases joined_or_error hat hreply hjoins with hsome | ⟨error, rfl⟩
      · exact .inl hsome
      · exact .inr ⟨error, rfl, stopOf_eq_some (htells _ _ _ _ hevent nofun)⟩ }

end Texts

/-- Blanks that join an operand, blanks in front of `or`, and a word that is tried and given up. -/
theorem course_decidesJoining_givenUp :
    (⟨1, none, true⟩ : Settings).maxDepth < UInt64.size ∧
      Settings.parseInPlace ⟨1, none, true⟩ "a:1 (+b or c:2) d" =
        some (Settings.parse ⟨1, none, true⟩ "a:1 (+b or c:2) d") ∧
      (Settings.course ⟨1, none, true⟩ "a:1 (+b or c:2) d").DecidesJoining := by
  have hdepth : (⟨1, none, true⟩ : Settings).maxDepth < UInt64.size := by decide
  exact ⟨hdepth, course_decidesJoining ⟨1, none, true⟩ "a:1 (+b or c:2) d" hdepth⟩

end FilterQuery
