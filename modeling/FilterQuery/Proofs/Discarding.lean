import FilterQuery.Proofs.Faults
import FilterQuery.Proofs.Visits

/-!
# What is given up is not passed over

Behind blanks an operand is tried, and if there is none the blanks join nothing. The text that was
given up is then in the way of everything that could follow: no reader takes it up, and it is where
the whole text fails.

* `GivesUp`: an operand was tried behind blanks, and yet nothing is joined. `GivesUp.exists_cons`,
  `GivesUp.afterConnective?_or`: the text that was tried continues no chain and closes no group.
* `endsAt_of_givesUp`: so every reader that is on the way stops in front of it, or fails there if a
  group is open.
* `quietAfter_visits`: no operand is tried any more.
* `parse_of_givesUp`: the whole text fails at the first character of what was given up.
-/

namespace FilterQuery

open Text

/-- The visit by which an operand is tried behind the blanks. -/
def State.trial (state : State) : Visit :=
  ⟨.operand, ⟨skipBlanks state.unread, state.depth⟩⟩

/-- An operand is tried behind the blanks, but the reply is that nothing is joined. -/
structure GivesUp (settings : Settings) (state : State) : Prop where
  /-- An operand is tried. -/
  tried : state.trial ∈ visits settings .joinedOperand state
  /-- Nothing is joined. -/
  nothing : ∃ next log, joinedOperand settings state = .done none next log

/-- Whether the visit tries to read an operand. -/
def Visit.triesOperand (visit : Visit) : Bool :=
  visit.reader == .operand || visit.reader == .group

section GivesUp

variable {settings : Settings} {state : State}

/-! ## The text that was given up -/

theorem GivesUp.operandBehind (h : GivesUp settings state) :
    (skipBlanks state.unread).length ≠ state.unread.length ∧
      endsConjunction (skipBlanks state.unread) = false := by
  have htried := h.tried
  rw [visits_joinedOperand] at htried
  split at htried
  · simp [State.trial] at htried
  · next hnot => simpa [not_or] using hnot

theorem GivesUp.joinedOperand_eq (h : GivesUp settings state) :
    joinedOperand settings state =
      joinedReply state (skipBlanks state.unread)
        (operand settings ⟨skipBlanks state.unread, state.depth⟩) := by
  obtain ⟨hlength, hends⟩ := h.operandBehind
  rw [FilterQuery.joinedOperand_eq, if_neg (by simp [hlength, hends])]

/-- What was tried has failed, as text that starts no operand, and the blanks are still there. -/
theorem GivesUp.reply (h : GivesUp settings state) :
    (skipBlanks state.unread).head? ≠ some '(' ∧
      ∃ log, joinedOperand settings state = .done none state log := by
  obtain ⟨next, log, hreply⟩ := h.nothing
  rw [h.joinedOperand_eq] at hreply ⊢
  rcases hoperand : operand settings ⟨skipBlanks state.unread, state.depth⟩ with
    ⟨right, behind, own⟩ | ⟨fault, own⟩
  · rw [hoperand] at hreply
    cases hreply
  · rw [hoperand] at hreply
    simp only [joinedReply] at hreply ⊢
    split at hreply
    · next hnone =>
      rw [Bool.and_eq_true] at hnone
      exact ⟨by simpa using hnone.1, own, if_pos (by rw [Bool.and_eq_true]; exact hnone)⟩
    · cases hreply

theorem GivesUp.visits_joinedOperand (h : GivesUp settings state) :
    visits settings .joinedOperand state = [⟨.joinedOperand, state⟩, state.trial] := by
  obtain ⟨hlength, hends⟩ := h.operandBehind
  rw [FilterQuery.visits_joinedOperand, if_neg (by simp [hlength, hends]), visits_operand,
    if_neg h.reply.1]
  rfl

theorem GivesUp.exists_cons (h : GivesUp settings state) :
    ∃ c tail, skipBlanks state.unread = c :: tail ∧ c ≠ ')' := by
  have hends := h.operandBehind.2
  rcases hskip : skipBlanks state.unread with _ | ⟨c, tail⟩
  · simp [hskip, endsConjunction] at hends
  · refine ⟨c, tail, rfl, ?_⟩
    rintro rfl
    simp [hskip, endsConjunction] at hends

theorem GivesUp.afterConnective?_or (h : GivesUp settings state) :
    afterConnective? .or state.unread = none := by
  have hends := h.operandBehind.2
  simp only [endsConjunction, Bool.or_eq_false_iff, Option.isSome_eq_false_iff,
    Option.isNone_iff_eq_none] at hends
  rw [afterConnective?, hends.2, Option.map_none]

/-! ## Stopping in front of it -/

/-- The reply is a fault at the start of the text, which says that the text should not be there. -/
def Refuses {α : Type} (text : List Char) (reply : Reply α) : Prop :=
  ∃ fault log, reply = .failed fault log ∧ fault.unread = text ∧
    (fault.cause.kind = .trailingInput ∨ fault.cause.kind = .unmatchedParenthesis)

/-- The reply leaves off at the state, with a value that is `expected`, or refuses the text behind
the blanks. -/
def StopsBefore {α : Type} (expected : α → Prop) (state : State) (reply : Reply α) : Prop :=
  (∃ value log, reply = .done value state log ∧ expected value) ∨
    Refuses (skipBlanks state.unread) reply

section Replies

variable {α β : Type} {text : List Char} {expected : α → Prop} {expected' : β → Prop}
  {first : Reply α} {second : α → State → Reply β}

theorem Refuses.andThen (h : Refuses text first) : Refuses text (first.andThen second) := by
  obtain ⟨fault, log, rfl, hfault⟩ := h
  exact ⟨fault, log, rfl, hfault⟩

theorem Refuses.after {reply : Reply α} (h : Refuses text reply) (earlier : Log) :
    Refuses text (reply.after earlier) := by
  obtain ⟨fault, log, rfl, hfault⟩ := h
  exact ⟨fault, earlier ++ log, rfl, hfault⟩

theorem StopsBefore.after {reply : Reply α} (h : StopsBefore expected state reply)
    (earlier : Log) : StopsBefore expected state (reply.after earlier) := by
  rcases h with ⟨value, log, rfl, hvalue⟩ | hrefuses
  · exact .inl ⟨value, earlier ++ log, rfl, hvalue⟩
  · exact .inr (hrefuses.after earlier)

theorem StopsBefore.andThen (h : StopsBefore expected state first)
    (hsecond : ∀ value, expected value → StopsBefore expected' state (second value state)) :
    StopsBefore expected' state (first.andThen second) := by
  rcases h with ⟨value, log, rfl, hvalue⟩ | hrefuses
  · exact (hsecond value hvalue).after log
  · exact .inr hrefuses.andThen

theorem Refuses.stopsBefore (h : Refuses (skipBlanks state.unread) first) :
    StopsBefore (fun _ => False) state first :=
  .inr h

theorem StopsBefore.refuses (h : StopsBefore (fun _ => False) state first) :
    Refuses (skipBlanks state.unread) first :=
  h.resolve_left fun ⟨_, _, _, hfalse⟩ => hfalse

/-- A reader that asks a first reader and then goes on stops in front of the text if the one that is
asked there does, and if it goes on nowhere from there. -/
theorem stopsBefore_of_mem {visit : Visit} {asked : List Visit} {more : α → State → List Visit}
    (hmem : visit ∈ asked ++ first.visits more)
    (hfirst : visit ∈ asked → StopsBefore expected state first)
    (hstays : ∀ value, expected value → StopsBefore expected' state (second value state))
    (hmore : ∀ value next log, first = .done value next log → visit ∈ more value next →
      StopsBefore expected' state (second value next)) :
    StopsBefore expected' state (first.andThen second) := by
  rcases List.mem_append.mp hmem with hasked | hbehind
  · exact (hfirst hasked).andThen hstays
  · obtain ⟨value, next, log, rfl, hvisit⟩ := Reply.mem_visits_iff.mp hbehind
    exact (hmore value next log rfl hvisit).after log

end Replies

/-- The reader stops in front of the text that was given up in the state `state`. A group, or an
operand that is one, refuses it; no operand is joined. -/
def Reader.StopsBefore (settings : Settings) (state : State) : Reader → State → Prop
  | disjunction, start =>
    FilterQuery.StopsBefore (fun _ => True) state (FilterQuery.disjunction settings start)
  | moreDisjuncts left, start =>
    FilterQuery.StopsBefore (fun _ => True) state (FilterQuery.moreDisjuncts settings left start)
  | conjunction, start =>
    FilterQuery.StopsBefore (fun _ => True) state (FilterQuery.conjunction settings start)
  | moreConjuncts left, start =>
    FilterQuery.StopsBefore (fun _ => True) state (FilterQuery.moreConjuncts settings left start)
  | joinedOperand, start =>
    FilterQuery.StopsBefore (· = none) state (FilterQuery.joinedOperand settings start)
  | operand, start => Refuses (skipBlanks state.unread) (FilterQuery.operand settings start)
  | group, start => Refuses (skipBlanks state.unread) (FilterQuery.group settings start)

theorem GivesUp.moreDisjuncts_eq (h : GivesUp settings state) (left : Filter) :
    moreDisjuncts settings left state = .done left state [] := by
  rw [FilterQuery.moreDisjuncts_eq, h.afterConnective?_or]

theorem GivesUp.visits_moreDisjuncts (h : GivesUp settings state) (left : Filter) :
    visits settings (.moreDisjuncts left) state = [⟨.moreDisjuncts left, state⟩] := by
  rw [FilterQuery.visits_moreDisjuncts, h.afterConnective?_or]

theorem GivesUp.refuses_closeGroup (h : GivesUp settings state) (opening : List Char)
    (inner : Filter) : Refuses (skipBlanks state.unread) (closeGroup opening inner state) := by
  obtain ⟨c, tail, hskip, hc⟩ := h.exists_cons
  obtain ⟨cause, hclose, hkind⟩ := closeGroup_failed opening inner state (by simpa [hskip] using hc)
  refine ⟨_, _, hclose, rfl, ?_⟩
  split at hkind
  · exact .inl hkind
  · exact .inr hkind

/-- A fault of this kind is not taken for text that starts no operand. -/
theorem Refuses.joinedReply {text operandText : List Char} {reply : Reply Filter}
    (h : Refuses text reply) (before : State) :
    Refuses text (joinedReply before operandText reply) := by
  obtain ⟨fault, log, rfl, htext, hkind⟩ := h
  have hcause : fault.cause.isNoOperand = false := by
    rcases hkind with hkind | hkind <;> rw [Cause.isNoOperand, hkind] <;> rfl
  exact ⟨fault, log, by simp [FilterQuery.joinedReply, hcause], htext, hkind⟩

/-- A reader that asks, on the way, for the operand that is given up stops in front of it. What it
has found until then is left to the readers that have asked it, up to the first open group. -/
theorem stopsBefore_of_givesUp (h : GivesUp settings state) :
    ∀ reader start, ⟨.joinedOperand, state⟩ ∈ visits settings reader start →
      reader.StopsBefore settings state start := by
  have hstays : ∀ left, StopsBefore (fun _ => True) state (moreDisjuncts settings left state) :=
    fun left => .inl ⟨left, [], h.moreDisjuncts_eq left, trivial⟩
  intro reader start
  induction reader, start using visits_induction settings with
  | disjunction start ih ihOn =>
    intro hmem
    rw [visits_disjunction] at hmem
    rw [Reader.StopsBefore, disjunction_eq]
    refine stopsBefore_of_mem ((List.mem_cons.mp hmem).resolve_left (by simp)) ih
      (fun left _ => hstays left) ihOn
  | moreDisjuncts left start ih =>
    intro hmem
    rw [visits_moreDisjuncts] at hmem
    replace hmem := (List.mem_cons.mp hmem).resolve_left (by simp)
    rw [Reader.StopsBefore, moreDisjuncts_eq]
    rcases hword : afterConnective? .or start.unread with _ | unread
    · simp [hword] at hmem
    · obtain ⟨ihMember, ihOn⟩ := ih unread hword
      simp only [hword] at hmem ⊢
      exact stopsBefore_of_mem hmem ihMember (fun right _ => hstays _) ihOn
  | conjunction start ih ihOn =>
    intro hmem
    rw [visits_conjunction] at hmem
    rw [Reader.StopsBefore, conjunction_eq]
    exact stopsBefore_of_mem ((List.mem_cons.mp hmem).resolve_left (by simp))
      (fun hmem => Refuses.stopsBefore (ih hmem)) (fun _ hfalse => hfalse.elim) ihOn
  | moreConjuncts left start ih ihJoined =>
    intro hmem
    rw [visits_moreConjuncts] at hmem
    replace hmem := (List.mem_cons.mp hmem).resolve_left (by simp)
    rw [Reader.StopsBefore, moreConjuncts_eq]
    rcases hword : afterConnective? .and start.unread with _ | unread
    · obtain ⟨ihMember, ihOn⟩ := ihJoined hword
      simp only [hword] at hmem ⊢
      refine stopsBefore_of_mem hmem ihMember ?_ ?_
      · rintro _ rfl
        exact .inl ⟨left, [], rfl, trivial⟩
      · rintro (_ | right) next log hreply hmem
        · cases hmem
        · exact ihOn right next log hreply hmem
    · obtain ⟨ihMember, ihOn⟩ := ih unread hword
      simp only [hword] at hmem ⊢
      exact stopsBefore_of_mem hmem (fun hmem => Refuses.stopsBefore (ihMember hmem))
        (fun _ hfalse => hfalse.elim) ihOn
  | joinedOperand start ih =>
    intro hmem
    rw [visits_joinedOperand] at hmem
    rcases List.mem_cons.mp hmem with heq | hmem
    · cases heq
      obtain ⟨-, log, hreply⟩ := h.reply
      exact .inl ⟨none, log, hreply, rfl⟩
    · split at hmem
      · cases hmem
      · next hnot =>
        rw [Reader.StopsBefore, joinedOperand_eq, if_neg hnot]
        rw [not_or] at hnot
        have hlt := Nat.lt_of_le_of_ne (length_skipBlanks_le start.unread) hnot.1
        exact .inr ((ih hlt hmem).joinedReply start)
  | operand start ih =>
    intro hmem
    rw [visits_operand] at hmem
    replace hmem := (List.mem_cons.mp hmem).resolve_left (by simp)
    split at hmem
    · next hgroup =>
      obtain ⟨inside, hinside⟩ := List.head?_eq_some_iff.mp hgroup
      have hreply : Refuses (skipBlanks state.unread) (group settings start) := ih hmem
      rw [Reader.StopsBefore, operand_eq, hinside]
      exact hreply
    · cases hmem
  | group start ih =>
    intro hmem
    rw [visits_group] at hmem
    replace hmem := (List.mem_cons.mp hmem).resolve_left (by simp)
    rcases hunread : start.unread with _ | ⟨c, inside⟩
    · simp [hunread] at hmem
    · simp only [hunread] at hmem
      split at hmem
      · cases hmem
      · next hdepth =>
        rw [Reader.StopsBefore, group_eq, hunread]
        simp only [if_neg hdepth]
        exact (StopsBefore.andThen (ih c inside hunread hmem) fun inner _ =>
          (h.refuses_closeGroup (c :: inside) inner).stopsBefore).refuses

/-! ## Nothing is tried behind it -/

/-- Where an operand is given up, no other one is tried afterwards. -/
def QuietAfter (settings : Settings) (asked : List Visit) : Prop :=
  ∀ before state rest, asked = before ++ ⟨.joinedOperand, state⟩ :: rest →
    GivesUp settings state →
    ∃ after, rest = state.trial :: after ∧ ∀ visit ∈ after, visit.triesOperand = false

theorem quietAfter_nil : QuietAfter settings [] := by
  intro before state rest h
  simp at h

theorem QuietAfter.cons {visit : Visit} {asked : List Visit} (h : QuietAfter settings asked)
    (hvisit : visit.reader ≠ .joinedOperand) : QuietAfter settings (visit :: asked) := by
  rintro (_ | ⟨first, before⟩) state rest hasked hgives
  · obtain ⟨rfl, -⟩ := List.cons.inj hasked
    exact absurd rfl hvisit
  · obtain ⟨-, hasked⟩ := List.cons.inj hasked
    exact h before state rest hasked hgives

theorem QuietAfter.append {asked asked' : List Visit} (h : QuietAfter settings asked)
    (h' : QuietAfter settings asked')
    (hquiet : ∀ state, ⟨.joinedOperand, state⟩ ∈ asked → GivesUp settings state →
      ∀ visit ∈ asked', visit.triesOperand = false) : QuietAfter settings (asked ++ asked') := by
  intro before state rest heq hgives
  rcases List.append_eq_append_iff.mp heq with ⟨middle, rfl, hasked'⟩ | ⟨middle, rfl, hrest⟩
  · exact h' middle state rest hasked' hgives
  · rcases middle with _ | ⟨first, middle⟩
    · exact h' [] state rest hrest.symm hgives
    · obtain ⟨rfl, rfl⟩ := List.cons.inj hrest
      obtain ⟨after, rfl, hafter⟩ := h before state middle rfl hgives
      refine ⟨after ++ asked', rfl, fun visit hvisit => ?_⟩
      rcases List.mem_append.mp hvisit with hvisit | hvisit
      · exact hafter visit hvisit
      · exact hquiet state (by simp) hgives visit hvisit

/-- The readers that are asked behind a first one are quiet where the first one stops in front of
what it has given up. -/
theorem QuietAfter.onward {α : Type} {asked : List Visit} {first : Reply α}
    {more : α → State → List Visit} {expected : α → Prop} (h : QuietAfter settings asked)
    (hstops : ∀ state, ⟨.joinedOperand, state⟩ ∈ asked → GivesUp settings state →
      StopsBefore expected state first)
    (hstays : ∀ value state, expected value → GivesUp settings state →
      ∀ visit ∈ more value state, visit.triesOperand = false)
    (hmore : ∀ value next log, first = .done value next log →
      QuietAfter settings (more value next)) :
    QuietAfter settings (asked ++ first.visits more) := by
  refine h.append ?_ fun state hmem hgives visit hvisit => ?_
  · cases first with
    | done value next log => exact hmore value next log rfl
    | failed fault log => exact quietAfter_nil
  · rcases hstops state hmem hgives with ⟨value, log, rfl, hvalue⟩ | ⟨fault, log, rfl, -⟩
    · exact hstays value state hvalue hgives visit hvisit
    · cases hvisit

theorem quietAfter_visits : ∀ reader start, QuietAfter settings (visits settings reader start) := by
  have hstays : ∀ left state, GivesUp settings state →
      ∀ visit ∈ visits settings (.moreDisjuncts left) state, visit.triesOperand = false := by
    intro left state hgives visit hvisit
    rw [hgives.visits_moreDisjuncts] at hvisit
    rw [List.mem_singleton.mp hvisit]
    rfl
  intro reader start
  induction reader, start using visits_induction settings with
  | disjunction start ih ihOn =>
    rw [visits_disjunction]
    refine QuietAfter.cons ?_ nofun
    exact ih.onward (fun _ hmem hgives => stopsBefore_of_givesUp hgives .conjunction start hmem)
      (fun left state _ => hstays left state) ihOn
  | moreDisjuncts left start ih =>
    rw [visits_moreDisjuncts]
    refine QuietAfter.cons ?_ nofun
    rcases hword : afterConnective? .or start.unread with _ | unread
    · exact quietAfter_nil
    · obtain ⟨ihMember, ihOn⟩ := ih unread hword
      exact ihMember.onward (fun _ hmem hgives => stopsBefore_of_givesUp hgives .conjunction _ hmem)
        (fun right state _ => hstays _ state) ihOn
  | conjunction start ih ihOn =>
    rw [visits_conjunction]
    refine QuietAfter.cons ?_ nofun
    exact ih.onward (fun _ hmem hgives =>
        Refuses.stopsBefore (stopsBefore_of_givesUp hgives .operand start hmem))
      (fun _ _ hfalse => hfalse.elim) ihOn
  | moreConjuncts left start ih ihJoined =>
    rw [visits_moreConjuncts]
    refine QuietAfter.cons ?_ nofun
    rcases hword : afterConnective? .and start.unread with _ | unread
    · obtain ⟨ihMember, ihOn⟩ := ihJoined hword
      refine ihMember.onward
        (fun _ hmem hgives => stopsBefore_of_givesUp hgives .joinedOperand start hmem) ?_ ?_
      · rintro _ state rfl - visit hvisit
        cases hvisit
      · rintro (_ | right) next log hreply
        · exact quietAfter_nil
        · exact ihOn right next log hreply
    · obtain ⟨ihMember, ihOn⟩ := ih unread hword
      exact ihMember.onward (fun _ hmem hgives =>
          Refuses.stopsBefore (stopsBefore_of_givesUp hgives .operand _ hmem))
        (fun _ _ hfalse => hfalse.elim) ihOn
  | joinedOperand start ih =>
    rintro (_ | ⟨first, before⟩) state rest hasked hgives
    · -- What is given up is what is tried here, and it is no group.
      have hstart := hasked
      rw [visits_joinedOperand, List.nil_append, List.cons.injEq] at hstart
      cases hstart.1
      rw [hgives.visits_joinedOperand] at hasked
      exact ⟨[], (List.cons.inj hasked).2.symm, by simp⟩
    · rw [visits_joinedOperand] at hasked
      obtain ⟨-, hasked⟩ := List.cons.inj hasked
      split at hasked
      · simp at hasked
      · next hnot =>
        rw [not_or] at hnot
        have hlt := Nat.lt_of_le_of_ne (length_skipBlanks_le start.unread) hnot.1
        exact ih hlt before state rest hasked hgives
  | operand start ih =>
    rw [visits_operand]
    refine QuietAfter.cons ?_ nofun
    split
    · exact ih
    · exact quietAfter_nil
  | group start ih =>
    rw [visits_group]
    refine QuietAfter.cons ?_ nofun
    rcases hunread : start.unread with _ | ⟨c, inside⟩
    · exact quietAfter_nil
    · dsimp only
      split
      · exact quietAfter_nil
      · exact ih c inside hunread

end GivesUp

/-! ## Whole texts -/

section Parse

variable {settings : Settings}

/-- A text of which readers are asked is not too long. -/
theorem parse_of_visit {input : String} {visit : Visit} (h : visit ∈ settings.visits input) :
    settings.visits input = visits settings .disjunction ⟨skipBlanks input.toList, 0⟩ ∧
      settings.parse input = .ofReply input (wholeText settings input.toList) := by
  rw [Settings.visits] at h ⊢
  rw [Settings.parse]
  rcases hlimit : settings.exceededLimit (byteLength input.toList) with _ | limit
  · exact ⟨rfl, rfl⟩
  · rw [hlimit] at h
    cases h

theorem GivesUp.refuses_wholeText {state : State} (h : GivesUp settings state) {text : List Char}
    (hmem : ⟨.joinedOperand, state⟩ ∈ visits settings .disjunction ⟨skipBlanks text, 0⟩) :
    Refuses (skipBlanks state.unread) (wholeText settings text) := by
  have hread := stopsBefore_of_givesUp h .disjunction ⟨skipBlanks text, 0⟩ hmem
  refine (StopsBefore.andThen hread fun filter _ => Refuses.stopsBefore ?_).refuses
  obtain ⟨c, tail, hskip, hc⟩ := h.exists_cons
  refine ⟨_, _, endOfText_cons hskip, hskip.symm, .inl ?_⟩
  rw [if_neg hc]
  rfl

/-- A text in which an operand is tried behind blanks and given up is not read any further: it fails
at the first character of what was given up, as text that follows a filter, or as a group that stays
open if there is one and no parenthesis could close it. -/
theorem parse_of_givesUp (settings : Settings) (input : String) (before rest : List Visit)
    (state : State)
    (hvisits : settings.visits input = before ++ ⟨.joinedOperand, state⟩ :: rest)
    (hgives : GivesUp settings state) :
    (∃ after, rest = state.trial :: after ∧ ∀ visit ∈ after, visit.triesOperand = false) ∧
      ∃ front c tail error, input.toList = front ++ c :: tail ∧
        skipBlanks state.unread = c :: tail ∧
        (settings.parse input).result = .error error ∧ error.position = byteLength front ∧
        error.kind =
          if 0 < (groupsOf front).opened ∧ ')' ∉ c :: tail then .unmatchedParenthesis
          else .trailingInput := by
  have hmem : ⟨.joinedOperand, state⟩ ∈ settings.visits input := by simp [hvisits]
  obtain ⟨hasked, hparse⟩ := parse_of_visit hmem
  rw [hasked] at hvisits hmem
  refine ⟨quietAfter_visits _ _ before state rest hvisits hgives, ?_⟩
  obtain ⟨fault, log, hwhole, hunread, hkind⟩ := hgives.refuses_wholeText hmem
  obtain ⟨c, tail, hskip, hc⟩ := hgives.exists_cons
  obtain ⟨front, depth, htext, -, hborn⟩ := wholeText_justified hwhole
  rw [hunread, hskip] at htext
  rw [List.nil_append, hunread, hskip] at hborn
  refine ⟨front, c, tail, fault.errorIn input.toList, htext, hskip, ?_, ?_, ?_⟩
  · rw [hparse, hwhole]
    rfl
  · rw [Fault.errorIn, Cause.position_errorAt, hunread, hskip, htext, offset_append]
  · rw [Fault.kind_errorIn]
    rcases hkind with hkind | hkind
    · rw [hkind] at hborn ⊢
      obtain ⟨-, hopen, -⟩ := hborn
      rw [if_neg]
      rintro ⟨hpos, hnot⟩
      rcases hopen with hnone | hclosing
      · omega
      · exact hnot hclosing
    · rw [hkind] at hborn ⊢
      rcases hborn with ⟨hhead, -⟩ | hopen
      · exact absurd (Option.some.inj hhead) hc
      · rw [if_pos hopen]

/-- A letter behind a tag, in a group that blanks have joined to a pair inside of another group. -/
theorem parse_of_givesUp_inGroups :
    let state : State := ⟨" b) c) or +y".toList, 2⟩
    ∃ before rest,
      (Settings.visits {} "(é:')' (+x b) c) or +y") = before ++ ⟨.joinedOperand, state⟩ :: rest ∧
      GivesUp {} state ∧
      (∃ after, rest = state.trial :: after ∧ ∀ visit ∈ after, visit.triesOperand = false) ∧
      ∃ front c tail error, "(é:')' (+x b) c) or +y".toList = front ++ c :: tail ∧
        skipBlanks state.unread = c :: tail ∧
        (Settings.parse {} "(é:')' (+x b) c) or +y").result = .error error ∧
        error.position = byteLength front ∧
        error.kind =
          if 0 < (groupsOf front).opened ∧ ')' ∉ c :: tail then .unmatchedParenthesis
          else .trailingInput := by
  intro state
  have hmem : ⟨.joinedOperand, state⟩ ∈ Settings.visits {} "(é:')' (+x b) c) or +y" := by
    decide +kernel
  have hgives : GivesUp {} state := by
    refine ⟨by decide +kernel, state, [], ?_⟩
    decide +kernel
  obtain ⟨before, rest, hvisits⟩ := List.append_of_mem hmem
  exact ⟨before, rest, hvisits, hgives, parse_of_givesUp {} _ before rest state hvisits hgives⟩

end Parse

end FilterQuery
