import FilterQuery.Proofs.Descent
import FilterQuery.Reader.Parse

/-!
# The readers accept the grammar

* `read_sound`: what a reader finds has a derivation, between the text that it started with and the
  text that it left, within the depth limit.
* `Derives.read_eq`: a derivation drives the reader. The reader of a chain is then in the middle of
  it, with everything derived so far as its left operand; whether it goes on is up to the rest.
* `wholeText_eq_done`: a whole text with a derivation is read, and the records that this leaves are
  those of the leaves, in order (`Filter.readLog`).
* `parse_eq_ok_iff`: a text is parsed as a filter if and only if the grammar says that it is written
  for it, within the limits.
-/

namespace FilterQuery

open Text

/-! ## The ends of chains -/

/-- The text is over or a closing parenthesis comes next: nothing can be joined any more. -/
def Closing (text : List Char) : Prop :=
  text = [] ∨ ∃ rest, text = ')' :: rest

theorem afterWord?_of_closing {text : List Char} (h : Closing text) (connective : Connective) :
    afterWord? connective.word.toList text = none := by
  rcases hword : afterWord? connective.word.toList text with _ | rest
  · rfl
  · obtain ⟨rfl, -⟩ := afterWord?_eq_some_iff.mp hword
    rcases h with h | ⟨rest', h⟩ <;> cases connective <;> cases h

theorem endsConjunction_of_closing {text : List Char} (h : Closing text) :
    endsConjunction text = true := by
  rcases h with rfl | ⟨rest, rfl⟩ <;> rfl

theorem endsConjunction_word (text : List Char) (h : continuesWord text = false) :
    endsConjunction (Connective.or.word.toList ++ text) = true := by
  rw [endsConjunction, afterWord?_eq_some_iff.mpr ⟨rfl, h⟩]
  simp

theorem endsConjunction_of_joint {text rest : List Char} (h : Joint .or text rest) :
    endsConjunction (skipBlanks text) = true := by
  cases h with
  | word hbefore hbehind hword =>
    rw [skipBlanks_append hbefore, skipBlanks_of_stops (stops_isBlank_word .or _)]
    exact endsConjunction_word _ hword

theorem afterWord?_and_of_endsConjunction {text : List Char} (h : endsConjunction text = true) :
    afterWord? Connective.and.word.toList text = none := by
  simp only [endsConjunction, Bool.or_eq_true, List.isEmpty_iff, beq_iff_eq,
    List.head?_eq_some_iff] at h
  rcases h with hclosing | hword
  · exact afterWord?_of_closing hclosing .and
  · obtain ⟨rest, hrest⟩ := Option.isSome_iff_exists.mp hword
    obtain ⟨rfl, -⟩ := afterWord?_eq_some_iff.mp hrest
    rfl

theorem afterJoint?_and_of_endsConjunction {text : List Char}
    (h : endsConjunction (skipBlanks text) = true) : afterJoint? .and text = none := by
  have hword : afterConnective? .and text = none := by
    rw [afterConnective?, afterWord?_and_of_endsConjunction h, Option.map_none]
  simp [afterJoint?, hword, startsOperand_of_endsConjunction h]

theorem afterJoint?_of_closing {text : List Char} (h : Closing (skipBlanks text))
    (connective : Connective) : afterJoint? connective text = none := by
  cases connective with
  | and => exact afterJoint?_and_of_endsConjunction (endsConjunction_of_closing h)
  | or => rw [afterJoint?, afterConnective?, afterWord?_of_closing h, Option.map_none]

/-! ## Closing a group -/

theorem Blanks.skip_closing {blanks : List Char} (h : Blanks blanks) (rest : List Char) :
    skipBlanks (blanks ++ ')' :: rest) = ')' :: rest := by
  rw [skipBlanks_append h, skipBlanks_of_stops (stops_cons.mpr isBlank_parenthesis.2)]

theorem Blanks.closing {blanks : List Char} (h : Blanks blanks) (rest : List Char) :
    Closing (skipBlanks (blanks ++ ')' :: rest)) :=
  .inr ⟨rest, h.skip_closing rest⟩

section CloseGroup

variable {opening rest : List Char} {inner filter : Filter} {state next : State} {log : Log}

theorem closeGroup_closing (h : skipBlanks state.unread = ')' :: rest) :
    closeGroup opening inner state = .done inner ⟨rest, state.depth - 1⟩ [] := by
  simp [closeGroup, h]

/-- A group that is not closed behind its blanks: whether it could be closed at all depends on all
the text behind it. -/
theorem closeGroup_failed (opening : List Char) (inner : Filter) (state : State)
    (h : (skipBlanks state.unread).head? ≠ some ')') :
    ∃ cause, closeGroup opening inner state = .failed ⟨cause, skipBlanks state.unread⟩ [] ∧
      cause.kind = if ')' ∈ skipBlanks state.unread then .trailingInput
        else .unmatchedParenthesis := by
  unfold closeGroup
  split
  · next rest hskip => exact absurd (by simp [hskip]) h
  · next found rest hfound hskip =>
    rw [hskip]
    split
    · next hmem => exact ⟨_, rfl, (if_pos (List.contains_iff_mem.mp hmem)).symm⟩
    · next hmem => exact ⟨_, rfl, (if_neg fun h => hmem (List.contains_iff_mem.mpr h)).symm⟩
  · next hskip =>
    rw [hskip]
    exact ⟨_, rfl, rfl⟩

theorem closeGroup_blanks {blanks : List Char} (h : Blanks blanks) (inner : Filter)
    (rest : List Char) (depth : Nat) :
    closeGroup opening inner ⟨blanks ++ ')' :: rest, depth⟩ = .done inner ⟨rest, depth - 1⟩ [] :=
  closeGroup_closing (h.skip_closing rest)

theorem closeGroup_eq_done (h : closeGroup opening inner state = .done filter next log) :
    filter = inner ∧ next.depth = state.depth - 1 ∧
      ∃ blanks, Blanks blanks ∧ state.unread = blanks ++ ')' :: next.unread := by
  by_cases hhead : (skipBlanks state.unread).head? = some ')'
  · obtain ⟨rest, hskip⟩ := List.head?_eq_some_iff.mp hhead
    cases (closeGroup_closing hskip).symm.trans h
    obtain ⟨blanks, htext, hblanks⟩ := exists_blanks state.unread
    exact ⟨rfl, rfl, blanks, hblanks, by rw [htext, hskip]⟩
  · obtain ⟨cause, hclose, -⟩ := closeGroup_failed opening inner state hhead
    cases hclose.symm.trans h

theorem closeGroup_eq_failed {fault : Fault}
    (h : closeGroup opening inner state = .failed fault log) :
    fault.unread = skipBlanks state.unread ∧ fault.unread.head? ≠ some ')' ∧
      (fault.cause.kind = .trailingInput ∧ ')' ∈ fault.unread ∨
        fault.cause.kind = .unmatchedParenthesis ∧ ')' ∉ fault.unread) := by
  by_cases hhead : (skipBlanks state.unread).head? = some ')'
  · obtain ⟨rest, hskip⟩ := List.head?_eq_some_iff.mp hhead
    cases (closeGroup_closing hskip).symm.trans h
  · obtain ⟨cause, hclose, hkind⟩ := closeGroup_failed opening inner state hhead
    cases hclose.symm.trans h
    refine ⟨rfl, hhead, ?_⟩
    split at hkind
    · next hmem => exact .inl ⟨hkind, hmem⟩
    · next hmem => exact .inr ⟨hkind, hmem⟩

end CloseGroup

/-! ## Soundness -/

section Reading

variable {settings : Settings}

theorem tagOperand_eq_done {polarity : Polarity} {state next : State} {filter : Filter} {log : Log}
    (h : tagOperand polarity state = .done filter next log) :
    ∃ name, Run isTagChar name ∧ Stops isTagChar next.unread ∧
      state.unread = name ++ next.unread ∧ filter = .tag polarity (String.ofList name) ∧
      next.depth = state.depth := by
  rw [tagOperand] at h
  rcases hname : readTagName polarity state.unread with fault | ⟨name, rest⟩
  · rw [hname] at h
    cases h
  · rw [hname] at h
    obtain ⟨run, hrun, hrest, htext, rfl⟩ := readRun_eq_ok_iff.mp hname
    cases h
    exact ⟨run, hrun, hrest, htext, rfl, rfl⟩

/-- What the readers find has a derivation, within what the open groups leave of the depth limit.
The readers of further members lengthen the derivation of the members read before. -/
theorem read_sound :
    (∀ part state, ∀ {filter next log}, read settings part state = .done filter next log →
      next.depth = state.depth ∧
      ∃ n, n ≤ settings.maxDepth - state.depth ∧
        Derives part n filter state.unread next.unread) ∧
    ∀ connective left state, ∀ {filter next log},
      readOn settings connective left state = .done filter next log →
      next.depth = state.depth ∧ ∀ {m text}, m ≤ settings.maxDepth - state.depth →
        Derives (.chain connective) m left text state.unread →
        ∃ n, n ≤ settings.maxDepth - state.depth ∧
          Derives (.chain connective) n filter text next.unread := by
  apply read_induction
  case operand =>
    rintro ⟨text, depth⟩ ih filter next log h
    cases opening text with
    | nil => cases operand_nil.symm.trans h
    | group inside =>
      rw [read_group] at h
      split at h
      · cases h
      · next hdepth =>
        obtain ⟨inner, middle, earlier, own, hinner, hclose, -⟩ := Reply.andThen_eq_done_iff.mp h
        obtain ⟨hmiddle, n, hn, derivation⟩ := ih inside rfl hinner
        obtain ⟨rfl, hnext, blanks, hblanks, htext⟩ := closeGroup_eq_done hclose
        obtain ⟨before, hinside, hbefore⟩ := exists_blanks inside
        dsimp only at hmiddle hn derivation ⊢
        rw [htext] at derivation
        refine ⟨by omega, n + 1, by omega, ?_⟩
        rw [hinside]
        exact .group hbefore derivation hblanks
    | sign polarity rest =>
      obtain ⟨name, hname, hstops, rfl, rfl, hnext⟩ :=
        tagOperand_eq_done ((operand_sign polarity rest).symm.trans h)
      exact ⟨hnext, 0, Nat.zero_le _, .tag hname hstops⟩
    | key text hname =>
      replace h := (operand_key hname text).symm.trans h
      split at h
      · next value rest hvalue =>
        cases h
        exact ⟨rfl, 0, Nat.zero_le _, .pair hname (readValue_eq_ok_iff.mp hvalue)⟩
      · cases h
    | letters hname hrest => cases (operand_letters hname hrest).symm.trans h
    | other rest hgroup hsign hkey => cases (operand_other hgroup hsign hkey).symm.trans h
  case chain =>
    intro connective state ih ihOn filter next log h
    rw [read_chain] at h
    obtain ⟨left, middle, earlier, own, hleft, hright, -⟩ := Reply.andThen_eq_done_iff.mp h
    obtain ⟨hmiddle, m, hm, derivation⟩ := ih hleft
    obtain ⟨hnext, hmore⟩ := ihOn left middle earlier hleft hright
    rw [hmiddle] at hnext hmore
    exact ⟨hnext, hmore hm (.single derivation)⟩
  case more =>
    intro connective left state ih filter next log h
    rcases hjoint : afterJoint? connective state.unread with _ | unread
    · rw [readOn_none hjoint] at h
      cases h
      exact ⟨rfl, fun hm derivation => ⟨_, hm, derivation⟩⟩
    · rw [readOn_some hjoint] at h
      obtain ⟨ihMember, ihOn⟩ := ih unread hjoint
      obtain ⟨right, middle, earlier, own, hright, hmore, -⟩ := Reply.andThen_eq_done_iff.mp h
      obtain ⟨hmiddle, n, hn, derivation⟩ := ihMember hright
      obtain ⟨hnext, hlonger⟩ := ihOn right middle earlier hright hmore
      dsimp only at hmiddle hn
      rw [hmiddle] at hnext hlonger
      refine ⟨hnext, fun hm leftDerivation => hlonger (Nat.max_le.mpr ⟨hm, hn⟩) ?_⟩
      exact .joined leftDerivation (joint_of_afterJoint? hjoint).1 derivation

/-! ## Completeness -/

/-- The records that reading leaves of the leaves of a filter, from left to right. -/
def Filter.readLog (settings : Settings) : Filter → Log
  | .pair key value => pairLog settings key value
  | .tag polarity name => [.tag polarity name]
  | .binary left _ right => left.readLog settings ++ right.readLog settings

/-- What the reader of a part still does behind a filter that it has read. -/
def finish (settings : Settings) : Part → Filter → State → Reply Filter
  | .operand, filter, state => .done filter state []
  | .chain connective, filter, state => readOn settings connective filter state

theorem finish_chain (connective : Connective) (filter : Filter) (state : State) :
    finish settings (.chain connective) filter state = readOn settings connective filter state :=
  rfl

theorem Derives.startsOperand {part : Part} {n : Nat} {filter : Filter} {text rest : List Char}
    (h : Derives part n filter text rest) : startsOperand text = true := by
  induction h with
  | pair hname _ => exact startsOperand_key hname _
  | tag _ _ => exact startsOperand_sign _ _
  | group _ _ _ => exact startsOperand_group _
  | single _ ih => exact ih
  | joined _ _ _ ih _ => exact ih

/-- No chain has disjunctions as its members. -/
theorem Connective.member_ne_or (connective : Connective) : connective.member ≠ .chain .or := by
  cases connective <;> decide

/-- A member of a chain is complete where the chain may go on, be it a conjunction in front of `or`
or of the end. -/
theorem finish_member {connective : Connective} {filter : Filter} {rest : List Char} {depth : Nat}
    (h : connective = .or → endsConjunction (skipBlanks rest) = true) :
    finish settings connective.member filter ⟨rest, depth⟩ = .done filter ⟨rest, depth⟩ [] := by
  cases connective with
  | and => rfl
  | or => exact readOn_none (afterJoint?_and_of_endsConjunction (h rfl))

/-- A derivation drives the reader of its part to the rest behind it. A chain need not end there, so
what is left to do is the reading of further members; by induction on the derivation, the members
before are by then the left operand. -/
theorem Derives.read_eq {part : Part} {n : Nat} {filter : Filter} {text rest : List Char}
    (h : Derives part n filter text rest) {depth : Nat} (hn : n ≤ settings.maxDepth - depth)
    (hend : part = .chain .or → endsConjunction (skipBlanks rest) = true) :
    read settings part ⟨text, depth⟩ =
      (finish settings part filter ⟨rest, depth⟩).after (filter.readLog settings) := by
  induction h generalizing depth with
  | pair hname hvalue =>
    refine (operand_key hname _).trans ?_
    rw [readValue_eq_ok_iff.mpr hvalue]
    simp [finish, Filter.ofPair, Filter.readLog, Reply.after]
  | tag hname hstops =>
    refine (operand_sign _ _).trans ?_
    rw [tagOperand, readTagName, readRun_run hname hstops]
    rfl
  | @group n filter before text behind rest hbefore derivation hbehind ih =>
    have hskip := skipBlanks_of_stops (stops_isBlank_of_startsOperand derivation.startsOperand)
    have hclosing := hbehind.closing rest
    rw [read_group, if_neg (by omega), skipBlanks_append hbefore, hskip,
      ih (by omega) fun _ => endsConjunction_of_closing hclosing, finish_chain,
      readOn_none (afterJoint?_of_closing hclosing .or), Reply.after_andThen,
      Reply.done_andThen, closeGroup_blanks hbehind, Reply.after_nil]
    rfl
  | @single connective n filter text rest _ ih =>
    rw [read_chain, ih hn fun h => absurd h connective.member_ne_or,
      finish_member fun h => hend (congrArg Part.chain h), Reply.after_andThen,
      Reply.done_andThen, Reply.after_nil]
    rfl
  | @joined connective m n left right text middle middle' rest _ joint right ihLeft ihRight =>
    have hmiddle : Part.chain connective = .chain .or →
        endsConjunction (skipBlanks middle) = true := by
      intro h
      obtain rfl := Part.chain.inj h
      exact endsConjunction_of_joint joint
    have hjoint := afterJoint?_of_joint joint right.startsOperand
    obtain ⟨hm, hn⟩ := Nat.max_le.mp hn
    rw [ihLeft hm hmiddle, finish_chain, readOn_some hjoint,
      ihRight hn fun h => absurd h connective.member_ne_or,
      finish_member fun h => hend (congrArg Part.chain h), Reply.after_andThen,
      Reply.done_andThen, Reply.after_nil, Reply.after_after]
    rfl

/-! ## Whole texts -/

theorem endOfText_nil {inner : Filter} {state : State} (h : skipBlanks state.unread = []) :
    endOfText inner state = .done inner ⟨[], state.depth⟩ [] := by
  simp [endOfText, h]

theorem endOfText_cons {inner : Filter} {state : State} {c : Char} {rest : List Char}
    (h : skipBlanks state.unread = c :: rest) :
    endOfText inner state =
      .failed ⟨if c = ')' then .strayClosing else .trailing c, c :: rest⟩ [] := by
  unfold endOfText
  rw [h]
  split
  · next hnil => cases hnil
  · next heq =>
    cases heq
    rfl
  · next hc heq =>
    cases heq
    rw [if_neg hc]

theorem endOfText_eq_done {inner filter : Filter} {state next : State} {log : Log}
    (h : endOfText inner state = .done filter next log) :
    filter = inner ∧ skipBlanks state.unread = [] := by
  rcases hskip : skipBlanks state.unread with _ | ⟨c, rest⟩
  · cases (endOfText_nil hskip).symm.trans h
    exact ⟨rfl, rfl⟩
  · cases (endOfText_cons hskip).symm.trans h

theorem endOfText_eq_failed {inner : Filter} {state : State} {fault : Fault} {log : Log}
    (h : endOfText inner state = .failed fault log) :
    fault.unread = skipBlanks state.unread ∧ fault.unread ≠ [] ∧
      (fault.cause = .strayClosing ∧ fault.unread.head? = some ')' ∨
        fault.cause.kind = .trailingInput ∧ fault.unread.head? ≠ some ')') := by
  rcases hskip : skipBlanks state.unread with _ | ⟨c, rest⟩
  · cases (endOfText_nil hskip).symm.trans h
  · cases (endOfText_cons hskip).symm.trans h
    refine ⟨rfl, List.cons_ne_nil c rest, ?_⟩
    by_cases hc : c = ')'
    · exact .inl ⟨if_pos hc, congrArg some hc⟩
    · exact .inr ⟨congrArg Cause.kind (if_neg hc), fun hhead => hc (Option.some.inj hhead)⟩

/-- A text that is written for a filter is read as that filter, and the records that this leaves are
those of its leaves. -/
theorem wholeText_eq_done {n : Nat} {filter : Filter} {text : List Char}
    (h : Denotes n filter text) (hn : n ≤ settings.maxDepth) :
    wholeText settings text = .done filter ⟨[], 0⟩ (filter.readLog settings) := by
  cases h with
  | @intro before text behind hbefore derivation hbehind =>
    have hskip := skipBlanks_of_stops (stops_isBlank_of_startsOperand derivation.startsOperand)
    have hnil : skipBlanks behind = [] := by
      rw [← List.append_nil behind, skipBlanks_append hbehind]
      rfl
    have hread : disjunction settings ⟨text, 0⟩ = _ :=
      derivation.read_eq hn fun _ => endsConjunction_of_closing (.inl hnil)
    rw [wholeText, skipBlanks_append hbefore, hskip, hread, finish_chain,
      readOn_none (afterJoint?_of_closing (.inl hnil) .or), Reply.after_andThen,
      Reply.done_andThen, Reply.after_nil]
    simp [endOfText, hnil, Reply.after]

theorem denotes_of_wholeText {filter : Filter} {text : List Char} {next : State} {log : Log}
    (h : wholeText settings text = .done filter next log) :
    ∃ n, n ≤ settings.maxDepth ∧ Denotes n filter text := by
  obtain ⟨inner, state, earlier, own, hread, hend, -⟩ := Reply.andThen_eq_done_iff.mp h
  obtain ⟨rfl, hnil⟩ := endOfText_eq_done hend
  obtain ⟨-, n, hn, derivation⟩ := read_sound.1 (.chain .or) _ hread
  obtain ⟨before, htext, hbefore⟩ := exists_blanks text
  refine ⟨n, hn, ?_⟩
  rw [htext]
  exact .intro hbefore derivation (blanks_of_skipBlanks hnil)

theorem exceededLimit_of_fits {input : String}
    (h : ∀ limit, settings.maxLength = some limit → input.utf8ByteSize ≤ limit) :
    settings.exceededLimit (byteLength input.toList) = none := by
  rw [Settings.exceededLimit, Option.filter_eq_none_iff, byteLength_toList]
  intro limit hlimit
  simpa using h limit hlimit

/-- A text that is not too long is read as a whole. -/
theorem parse_of_fits {input : String}
    (h : ∀ limit, settings.maxLength = some limit → input.utf8ByteSize ≤ limit) :
    settings.parse input = .ofReply input (wholeText settings input.toList) := by
  rw [Settings.parse, exceededLimit_of_fits h]

theorem parse_of_denotes {n : Nat} {filter : Filter} {input : String}
    (hlength : ∀ limit, settings.maxLength = some limit → input.utf8ByteSize ≤ limit)
    (hn : n ≤ settings.maxDepth) (h : Denotes n filter input.toList) :
    (settings.parse input).result = .ok filter := by
  rw [parse_of_fits hlength, wholeText_eq_done h hn]
  rfl

theorem exists_wholeText_of_parse {filter : Filter} {input : String}
    (h : (settings.parse input).result = .ok filter) :
    ∃ next log, wholeText settings input.toList = .done filter next log := by
  rw [Settings.parse] at h
  split at h
  · cases h
  · rcases hwhole : wholeText settings input.toList with ⟨inner, next, log⟩ | ⟨fault, log⟩
    · rw [hwhole] at h
      obtain rfl := Except.ok.inj h
      exact ⟨next, log, rfl⟩
    · rw [hwhole] at h
      cases h

theorem denotes_of_parse {filter : Filter} {input : String}
    (h : (settings.parse input).result = .ok filter) :
    ∃ n, n ≤ settings.maxDepth ∧ Denotes n filter input.toList := by
  obtain ⟨next, log, hwhole⟩ := exists_wholeText_of_parse h
  exact denotes_of_wholeText hwhole

/-- A text that is not too long is parsed as a filter if and only if the grammar says that it is
written for that filter, with groups that nest no deeper than the limit. -/
theorem parse_eq_ok_iff (settings : Settings) (input : String) (filter : Filter)
    (hlength : ∀ limit, settings.maxLength = some limit → input.utf8ByteSize ≤ limit) :
    (settings.parse input).result = .ok filter ↔
      ∃ n, n ≤ settings.maxDepth ∧ Denotes n filter input.toList := by
  constructor
  · exact denotes_of_parse
  · rintro ⟨n, hn, hdenotes⟩
    exact parse_of_denotes hlength hn hdenotes

/-- A key that is a connective's word, a group without blanks behind it and blanks that join. -/
theorem parse_eq_ok_iff_joined_by_blanks :
    (∀ limit, (⟨1, some 17, true⟩ : Settings).maxLength = some limit →
      "(and:1 or b:2) -x".utf8ByteSize ≤ limit) ∧
    ((Settings.parse ⟨1, some 17, true⟩ "(and:1 or b:2) -x").result = .ok
        (.both (.either (.ofPair "and" "1") (.ofPair "b" "2")) (.tag .excludes "x")) ↔
      ∃ n, n ≤ 1 ∧ Denotes n
        (.both (.either (.ofPair "and" "1") (.ofPair "b" "2")) (.tag .excludes "x"))
        "(and:1 or b:2) -x".toList) := by
  have hlength : ∀ limit, (⟨1, some 17, true⟩ : Settings).maxLength = some limit →
      "(and:1 or b:2) -x".utf8ByteSize ≤ limit := by
    intro limit h
    obtain rfl := Option.some.inj h
    decide
  exact ⟨hlength, parse_eq_ok_iff _ _ _ hlength⟩

end Reading

end FilterQuery
