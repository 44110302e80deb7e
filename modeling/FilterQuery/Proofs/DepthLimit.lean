import FilterQuery.Proofs.Acceptance

/-!
# Lowering the depth limit

Under a lower depth limit a text is read in the same way, with the same records, up to the first
group that is too deep. Under the higher limit reading goes on behind the start of that group.

* `Reply.left`: the text that reading has not passed. `read_left_le`: no reader gives text back.
* `Lowered`: a reply under the lower limit, beside the one under the higher limit.
* `read_lowered`, `wholeText_lowered`: the readers reply so, side by side.
-/

namespace FilterQuery

/-! ## What reading has not passed -/

/-- The text behind what was read, or from the place of the fault on. -/
def Reply.left {α : Type} : Reply α → List Char
  | done _ next _ => next.unread
  | failed fault _ => fault.unread

@[simp]
theorem Reply.left_after {α : Type} (earlier : Log) (reply : Reply α) :
    (reply.after earlier).left = reply.left := by
  cases reply <;> rfl

theorem Reply.left_andThen_le {α β : Type} {first : Reply α} {second : α → State → Reply β}
    (h : ∀ found next log, first = .done found next log →
      (second found next).left.length ≤ next.unread.length) :
    (first.andThen second).left.length ≤ first.left.length := by
  rcases first with ⟨found, next, log⟩ | ⟨fault, log⟩
  · rw [done_andThen, left_after]
    exact h found next log rfl
  · exact Nat.le_refl _

theorem LeafFault.suffix {text : List Char} {fault : Fault} (h : LeafFault text fault) :
    fault.unread <:+ text := by
  cases h with
  | nothing => exact List.suffix_rfl
  | other rest => exact List.suffix_rfl
  | noTagName => exact List.suffix_cons _ _
  | noSeparator => exact List.suffix_append _ _
  | noValue => exact (List.suffix_cons ':' _).trans (List.suffix_append _ _)
  | openQuote => exact (List.suffix_cons ':' _).trans (List.suffix_append _ _)

theorem LeafFault.length_le {text : List Char} {fault : Fault} (h : LeafFault text fault) :
    fault.unread.length ≤ text.length :=
  h.suffix.length_le

theorem length_left_closeGroup_le (opening : List Char) (inner : Filter) (state : State) :
    (closeGroup opening inner state).left.length ≤ state.unread.length := by
  have hskip := length_skipBlanks_le state.unread
  unfold closeGroup
  split
  · next rest h =>
    rw [h, List.length_cons] at hskip
    exact Nat.le_of_succ_le hskip
  · next h =>
    rw [h] at hskip
    split <;> exact hskip
  · exact Nat.zero_le _

theorem length_left_endOfText_le (inner : Filter) (state : State) :
    (endOfText inner state).left.length ≤ state.unread.length := by
  have hskip := length_skipBlanks_le state.unread
  unfold endOfText
  split <;> next h => rw [h] at hskip; exact hskip

section DepthLimit

variable {settings : Settings} {limit : Nat}

/-- Reading a group that is not too deep passes its start. -/
theorem left_group_lt {inside : List Char} {depth : Nat} (h : depth < settings.maxDepth)
    (hinner : (read settings (.chain .or) ⟨skipBlanks inside, depth + 1⟩).left.length ≤
      (skipBlanks inside).length) :
    (read settings .operand ⟨'(' :: inside, depth⟩).left.length < ('(' :: inside).length := by
  rw [read_group, if_neg (Nat.not_le.mpr h), List.length_cons, Nat.lt_succ_iff]
  exact Nat.le_trans (Reply.left_andThen_le fun _ _ _ _ => length_left_closeGroup_le _ _ _)
    (Nat.le_trans hinner (length_skipBlanks_le inside))

/-- No reader gives text back that was there before it started. -/
theorem read_left_le :
    (∀ part state, (read settings part state).left.length ≤ state.unread.length) ∧
    ∀ connective left state, (readOn settings connective left state).left.length ≤
      state.unread.length := by
  apply read_induction
  case operand =>
    rintro ⟨text, depth⟩ ih
    by_cases hgroup : text.head? = some '('
    · obtain ⟨inside, rfl⟩ := List.head?_eq_some_iff.mp hgroup
      by_cases hdepth : settings.maxDepth ≤ depth
      · rw [read_group, if_pos hdepth]
        exact Nat.le_refl _
      · exact Nat.le_of_lt (left_group_lt (Nat.lt_of_not_le hdepth) (ih inside rfl))
    · rcases h : read settings .operand ⟨text, depth⟩ with ⟨filter, next, log⟩ | ⟨fault, log⟩
      · exact Nat.le_of_lt (length_operand_lt h)
      · exact (leafFault_of_operand hgroup h).length_le
  case chain =>
    intro connective state ih ihOn
    rw [read_chain]
    exact Nat.le_trans (Reply.left_andThen_le ihOn) ih
  case more =>
    intro connective left state ih
    rcases hjoint : afterJoint? connective state.unread with _ | unread
    · rw [readOn_none hjoint]
      exact Nat.le_refl _
    · obtain ⟨ihMember, ihOn⟩ := ih unread hjoint
      rw [readOn_some hjoint]
      exact Nat.le_trans (Reply.left_andThen_le ihOn)
        (Nat.le_trans ihMember (Nat.le_of_lt (length_afterJoint?_lt hjoint)))

/-! ## Two limits side by side -/

/-- The first reply is the second one, or that a group would be nested more deeply than the limit,
while the second one has passed the start of that group. -/
def Lowered (limit : Nat) (lower higher : Reply Filter) : Prop :=
  lower = higher ∨ ∃ unread log, lower = .failed ⟨.tooDeep limit, unread⟩ log ∧
    higher.left.length < unread.length

theorem Lowered.refl (limit : Nat) (reply : Reply Filter) : Lowered limit reply reply :=
  .inl rfl

theorem Lowered.after {limit : Nat} {lower higher : Reply Filter} (h : Lowered limit lower higher)
    (earlier : Log) : Lowered limit (lower.after earlier) (higher.after earlier) := by
  rcases h with rfl | ⟨unread, log, rfl, hlt⟩
  · exact .refl limit _
  · exact .inr ⟨unread, earlier ++ log, rfl, by rwa [Reply.left_after]⟩

theorem Lowered.andThen {limit : Nat} {lower higher : Reply Filter}
    {second second' : Filter → State → Reply Filter} (h : Lowered limit lower higher)
    (hsecond : ∀ found next log, lower = .done found next log →
      Lowered limit (second found next) (second' found next))
    (hleft : ∀ found next, (second' found next).left.length ≤ next.unread.length) :
    Lowered limit (lower.andThen second) (higher.andThen second') := by
  rcases h with rfl | ⟨unread, log, rfl, hlt⟩
  · rcases lower with ⟨found, next, log⟩ | ⟨fault, log⟩
    · exact (hsecond found next log rfl).after log
    · exact .refl limit _
  · exact .inr ⟨unread, log, rfl,
      Nat.lt_of_le_of_lt (Reply.left_andThen_le fun _ _ _ _ => hleft _ _) hlt⟩

/-- The depth limit does not matter where no group starts. -/
theorem operand_withMaxDepth {text : List Char} {depth : Nat} (h : text.head? ≠ some '(') :
    operand (settings.withMaxDepth limit) ⟨text, depth⟩ = operand settings ⟨text, depth⟩ := by
  rw [operand_eq, operand_eq]
  cases text with
  | nil => rfl
  | cons c text =>
    have hc : c ≠ '(' := fun hc => h (by simp [hc])
    simp only [if_neg hc]
    rfl

/-- The readers take the same steps under both limits, until the lower one stops them at a group. -/
theorem read_lowered (h : settings.maxDepth ≤ limit) :
    (∀ part state, state.depth ≤ settings.maxDepth →
      Lowered settings.maxDepth (read settings part state)
        (read (settings.withMaxDepth limit) part state)) ∧
    ∀ connective left state, state.depth ≤ settings.maxDepth →
      Lowered settings.maxDepth (readOn settings connective left state)
        (readOn (settings.withMaxDepth limit) connective left state) := by
  apply read_induction
  case operand =>
    rintro ⟨text, depth⟩ ih hstate
    by_cases hgroup : text.head? = some '('
    · obtain ⟨inside, rfl⟩ := List.head?_eq_some_iff.mp hgroup
      by_cases hdepth : settings.maxDepth ≤ depth
      · by_cases hlimit : limit ≤ depth
        · obtain rfl : limit = settings.maxDepth := by
            dsimp only at hstate
            omega
          exact .refl _ _
        · have hhigher : depth < (settings.withMaxDepth limit).maxDepth := Nat.lt_of_not_le hlimit
          rw [read_group, if_pos hdepth]
          exact .inr ⟨_, _, rfl, left_group_lt hhigher (read_left_le.1 _ _)⟩
      · have hhigher : ¬(settings.withMaxDepth limit).maxDepth ≤ depth :=
          fun hlimit => hdepth (Nat.le_trans h hlimit)
        rw [read_group, read_group, if_neg hdepth, if_neg hhigher]
        exact (ih inside rfl (Nat.lt_of_not_le hdepth)).andThen (fun _ _ _ _ => .refl _ _)
          fun _ _ => length_left_closeGroup_le _ _ _
    · exact .inl (operand_withMaxDepth hgroup).symm
  case chain =>
    intro connective state ih ihOn hstate
    rw [read_chain, read_chain]
    refine (ih hstate).andThen (fun left next log hleft => ?_) fun _ _ => read_left_le.2 _ _ _
    exact ihOn left next log hleft ((read_sound.1 _ _ hleft).1 ▸ hstate)
  case more =>
    intro connective left state ih hstate
    rcases hjoint : afterJoint? connective state.unread with _ | unread
    · rw [readOn_none hjoint, readOn_none hjoint]
      exact .refl _ _
    · obtain ⟨ihMember, ihOn⟩ := ih unread hjoint
      rw [readOn_some hjoint, readOn_some hjoint]
      refine (ihMember hstate).andThen (fun right next log hright => ?_)
        fun _ _ => read_left_le.2 _ _ _
      exact ihOn right next log hright ((read_sound.1 _ _ hright).1 ▸ hstate)

theorem wholeText_lowered (h : settings.maxDepth ≤ limit) (text : List Char) :
    Lowered settings.maxDepth (wholeText settings text)
      (wholeText (settings.withMaxDepth limit) text) :=
  ((read_lowered h).1 (.chain .or) _ (Nat.zero_le _)).andThen (fun _ _ _ _ => .refl _ _)
    fun _ _ => length_left_endOfText_le _ _

end DepthLimit

end FilterQuery
