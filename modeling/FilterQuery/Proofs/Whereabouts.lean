import FilterQuery.Proofs.Threshold
import FilterQuery.Proofs.Visits

/-!
# Where the readers are asked

A reader starts with some text left to be read and with a number of groups that it takes to be open.
They fit together: the number is that of the groups that the text in front of it opens and does not
close.

* `State.ReachedIn`: the state is a place in the text, with the groups that are open there.
  `State.ReachedIn.read` and the lemmas around it: the readers lead from such places to others.
* `visits_reachedIn`: all readers are asked at such places.
* `State.ReachedIn.le_count`: there the depth is at most the limit, and at most the number of
  opening parentheses in front.
-/

namespace FilterQuery

open Text

/-- The state is a place in the text, outside of quoted values, and its depth is the number of
groups that are open there. -/
def State.ReachedIn (limit : Nat) (text : List Char) (state : State) : Prop :=
  ∃ before, text = before ++ state.unread ∧ Reached limit state.depth before

section ReachedIn

variable {settings : Settings} {limit : Nat} {text : List Char} {state next : State}

theorem State.ReachedIn.plain (h : state.ReachedIn limit text) {run rest : List Char}
    (hunread : state.unread = run ++ rest) (hrun : ∀ c ∈ run, Plain c) :
    State.ReachedIn limit text ⟨rest, state.depth⟩ := by
  obtain ⟨before, htext, hreached⟩ := h
  refine ⟨before ++ run, ?_, hreached.plain hrun⟩
  rw [htext, hunread, List.append_assoc]

theorem State.ReachedIn.skipBlanks (h : state.ReachedIn limit text) :
    State.ReachedIn limit text ⟨FilterQuery.skipBlanks state.unread, state.depth⟩ := by
  obtain ⟨blanks, hunread, hblanks⟩ := exists_blanks state.unread
  exact h.plain hunread hblanks.plain

theorem State.ReachedIn.connective (h : state.ReachedIn limit text) {connective : Connective}
    {rest : List Char} (hword : afterConnective? connective state.unread = some rest) :
    State.ReachedIn limit text ⟨rest, state.depth⟩ := by
  obtain ⟨between, hunread, hbetween⟩ := (joint_of_afterConnective? hword).1.plain
  exact h.plain hunread hbetween

theorem State.ReachedIn.read (h : state.ReachedIn settings.maxDepth text) (part : Part)
    {filter : Filter} {log : Log} (hread : read settings part state = .done filter next log) :
    next.ReachedIn settings.maxDepth text := by
  obtain ⟨before, htext, hreached⟩ := h
  obtain ⟨consumed, hunread, hnext⟩ := hreached.behind hread
  refine ⟨before ++ consumed, ?_, hnext⟩
  rw [htext, hunread, List.append_assoc]

theorem State.ReachedIn.joinedOperand (h : state.ReachedIn settings.maxDepth text) {right : Filter}
    {log : Log} (hread : joinedOperand settings state = .done (some right) next log) :
    next.ReachedIn settings.maxDepth text := by
  rw [joinedOperand_eq] at hread
  split at hread
  · cases hread
  · rcases hoperand : operand settings ⟨FilterQuery.skipBlanks state.unread, state.depth⟩ with
      ⟨right', next', log'⟩ | ⟨fault, log'⟩
    · rw [hoperand] at hread
      cases hread
      exact (h.skipBlanks).read .operand hoperand
    · rw [hoperand, joinedReply] at hread
      split at hread <;> cases hread

theorem State.ReachedIn.enter (h : state.ReachedIn limit text) {inside : List Char}
    (hunread : state.unread = '(' :: inside) (hdepth : state.depth < limit) :
    State.ReachedIn limit text ⟨inside, state.depth + 1⟩ := by
  obtain ⟨before, htext, hreached⟩ := h
  refine ⟨before ++ ['('], ?_, hreached.enter hdepth⟩
  rw [htext, hunread, List.append_assoc]
  rfl

theorem State.ReachedIn.le_count (h : state.ReachedIn limit text) {before : List Char}
    (htext : text = before ++ state.unread) :
    (groupsOf before).opened = state.depth ∧ state.depth ≤ limit ∧
      state.depth ≤ before.count '(' := by
  obtain ⟨before', htext', hreached⟩ := h
  obtain rfl := List.append_cancel_right (htext.symm.trans htext')
  have hcount := Groups.start.opened_along_le before
  have hopened : (Groups.start.along before).opened = state.depth := hreached.opened
  have hstart : Groups.start.opened = 0 := rfl
  exact ⟨hopened, hreached.depth_le, by omega⟩

/-- All readers that are listed are asked at places that are reached. -/
def AllReached (limit : Nat) (text : List Char) (asked : List Visit) : Prop :=
  ∀ visit ∈ asked, visit.state.ReachedIn limit text

theorem allReached_nil : AllReached limit text [] := by
  simp [AllReached]

theorem AllReached.cons {reader : Reader} {asked : List Visit} (h : AllReached limit text asked)
    (hstate : state.ReachedIn limit text) : AllReached limit text (⟨reader, state⟩ :: asked) :=
  List.forall_mem_cons.mpr ⟨hstate, h⟩

theorem AllReached.onward {α : Type} {asked : List Visit} {reply : Reply α}
    {more : α → State → List Visit} (h : AllReached limit text asked)
    (hmore : ∀ value next log, reply = .done value next log →
      AllReached limit text (more value next)) :
    AllReached limit text (asked ++ reply.visits more) := by
  refine List.forall_mem_append.mpr ⟨h, fun visit hvisit => ?_⟩
  obtain ⟨value, next, log, hreply, hmem⟩ := Reply.mem_visits_iff.mp hvisit
  exact hmore value next log hreply visit hmem

/-- The readers are asked at places that are reached. -/
theorem visits_reachedIn (settings : Settings) (text : List Char) (reader : Reader) (state : State)
    (h : state.ReachedIn settings.maxDepth text)
    (hgroup : reader = .group → state.unread.head? = some '(') :
    AllReached settings.maxDepth text (visits settings reader state) := by
  induction reader, state using visits_induction settings with
  | disjunction state ih ihOn =>
    rw [visits_disjunction]
    refine ((ih h nofun).onward fun left next log hreply => ?_).cons h
    exact ihOn left next log hreply (h.read (.chain .and) hreply) nofun
  | moreDisjuncts left state ih =>
    rw [visits_moreDisjuncts]
    refine AllReached.cons ?_ h
    rcases hword : afterConnective? .or state.unread with _ | unread
    · exact allReached_nil
    · obtain ⟨ihMember, ihOn⟩ := ih unread hword
      have hunread := h.connective hword
      refine (ihMember hunread nofun).onward fun right next log hreply => ?_
      exact ihOn right next log hreply (hunread.read (.chain .and) hreply) nofun
  | conjunction state ih ihOn =>
    rw [visits_conjunction]
    refine ((ih h nofun).onward fun left next log hreply => ?_).cons h
    exact ihOn left next log hreply (h.read .operand hreply) nofun
  | moreConjuncts left state ih ihJoined =>
    rw [visits_moreConjuncts]
    refine AllReached.cons ?_ h
    rcases hword : afterConnective? .and state.unread with _ | unread
    · obtain ⟨ihMember, ihOn⟩ := ihJoined hword
      refine (ihMember h nofun).onward ?_
      rintro (_ | right) next log hreply
      · exact allReached_nil
      · exact ihOn right next log hreply (h.joinedOperand hreply) nofun
    · obtain ⟨ihMember, ihOn⟩ := ih unread hword
      have hunread := h.connective hword
      refine (ihMember hunread nofun).onward fun right next log hreply => ?_
      exact ihOn right next log hreply (hunread.read .operand hreply) nofun
  | joinedOperand state ih =>
    rw [visits_joinedOperand]
    refine AllReached.cons ?_ h
    split
    · exact allReached_nil
    · next hnot =>
      rw [not_or] at hnot
      have hlt := Nat.lt_of_le_of_ne (length_skipBlanks_le state.unread) hnot.1
      exact ih hlt h.skipBlanks nofun
  | operand state ih =>
    rw [visits_operand]
    refine AllReached.cons ?_ h
    split
    · next hopens => exact ih h fun _ => hopens
    · exact allReached_nil
  | group state ih =>
    rw [visits_group]
    refine AllReached.cons ?_ h
    obtain ⟨inside, hunread⟩ := List.head?_eq_some_iff.mp (hgroup rfl)
    rw [hunread]
    dsimp only
    split
    · exact allReached_nil
    · next hdepth =>
      have hinside := h.enter hunread (Nat.lt_of_not_le hdepth)
      exact ih '(' inside hunread hinside.skipBlanks nofun

end ReachedIn

end FilterQuery
