import FilterQuery.Proofs.Acceptance
import FilterQuery.Proofs.Groups

/-!
# Faults are borne out by the text

* `BornOut limit before rest kind`: what the text shows where an error of a kind is reported, in
  front of the place (`before`) and from it on (`rest`).
* `Reached`: a place outside of quoted values, with the groups that are open there.
  `Reached.derives`: a derivation leads from such a place to another one, with the same groups open.
* `read_settled`: behind a chain nothing stands that could be joined to it. `reached_of_read`: so it
  is behind the blanks after a disjunction, where a parenthesis or the end is looked for.
* `read_justified`: every fault of a reader is borne out, at a place that the reader has reached.
* `parse_error_bornOut`: so is every error of a text, apart from the one about its length.
-/

namespace FilterQuery

open Text

/-! ## What an error says about the text -/

/-- Nothing that stands in the text from the place on could be joined to what is in front of it. -/
def Settled (before rest : List Char) : Prop :=
  (∀ connective : Connective, afterWord? connective.word.toList rest = none) ∧
    ((∃ c, before.getLast? = some c ∧ isBlank c = true) → startsOperand rest = false)

/-- What the text shows in front of the place of an error and from that place on. -/
def BornOut (limit : Nat) (before rest : List Char) : ErrorKind → Prop
  | .unterminatedQuote =>
    before.getLast? = some ':' ∧ ∃ body, rest = quoteMark :: body ∧ quoteMark ∉ body
  | .emptyValue =>
    before.getLast? = some ':' ∧ Stops isValueChar rest ∧ rest.head? ≠ some quoteMark
  | .invalidKey => False
  | .missingSeparator =>
    (∃ c, before.getLast? = some c ∧ isKeyChar c = true) ∧
      Stops (fun c => isKeyChar c || c == ':') rest
  | .emptyTagName =>
    (before.getLast? = some '+' ∨ before.getLast? = some '-') ∧ Stops isTagChar rest
  | .unmatchedParenthesis =>
    (rest.head? = some ')' ∧ (groupsOf before).opened = 0) ∨
      (0 < (groupsOf before).opened ∧ ')' ∉ rest)
  | .trailingInput =>
    (∃ c tail, rest = c :: tail ∧ isBlank c = false ∧ c ≠ ')') ∧
      ((groupsOf before).opened = 0 ∨ ')' ∈ rest) ∧ Settled before rest
  | .unrecognizedOperand =>
    ∀ c ∈ rest.head?, isBlank c = false ∧ c ≠ '(' ∧ c ≠ '+' ∧ c ≠ '-' ∧ isKeyChar c = false
  | .nestingTooDeep =>
    rest.head? = some '(' ∧ (groupsOf before).opened = limit
  | .inputTooLong => False

/-! ## Places that the readers reach -/

/-- A place outside of quoted values, where `depth` groups are open, behind a text that nests no
deeper than the limit. -/
structure Reached (limit depth : Nat) (before : List Char) : Prop where
  quoted : (groupsOf before).quoted = false
  opened : (groupsOf before).opened = depth
  deepest : (groupsOf before).deepest ≤ limit

section Reached

variable {limit depth : Nat} {before : List Char}

theorem reached_nil (limit : Nat) : Reached limit 0 [] :=
  ⟨rfl, rfl, Nat.zero_le _⟩

theorem Reached.depth_le (h : Reached limit depth before) : depth ≤ limit := by
  have := (groupsOf before).opened_le_deepest
  rw [h.opened] at this
  exact Nat.le_trans this h.deepest

theorem Reached.plain (h : Reached limit depth before) {text : List Char}
    (htext : ∀ c ∈ text, Plain c) : Reached limit depth (before ++ text) := by
  have hsame : groupsOf (before ++ text) = groupsOf before := by
    rw [groupsOf_append, Groups.along_plain htext]
  exact ⟨hsame ▸ h.quoted, hsame ▸ h.opened, hsame ▸ h.deepest⟩

theorem Reached.enter (h : Reached limit depth before) (hdepth : depth < limit) :
    Reached limit (depth + 1) (before ++ ['(']) := by
  have hgroups : groupsOf (before ++ ['(']) = (groupsOf before).enter := by
    rw [groupsOf_append, Groups.along_cons, Groups.pass_open h.quoted, Groups.along_nil]
  refine ⟨?_, ?_, ?_⟩ <;> rw [hgroups]
  · exact h.quoted
  · exact congrArg (· + 1) h.opened
  · have := h.opened
    exact Nat.max_le.mpr ⟨h.deepest, by omega⟩

theorem Reached.derives (h : Reached limit depth before) {part : Part} {n : Nat} {filter : Filter}
    {text rest : List Char} (derivation : Derives part n filter text rest)
    (hn : n ≤ limit - depth) :
    ∃ consumed, text = consumed ++ rest ∧ Reached limit depth (before ++ consumed) := by
  obtain ⟨consumed, k, rfl, -, hconsumed⟩ := derivation.along
  refine ⟨consumed, rfl, ?_⟩
  have hgroups : groupsOf (before ++ consumed) = (groupsOf before).through n k := by
    rw [groupsOf_append, hconsumed _ h.quoted]
  refine ⟨?_, ?_, ?_⟩ <;> rw [hgroups]
  · exact h.quoted
  · exact h.opened
  · have := h.opened
    have := h.depth_le
    exact Nat.max_le.mpr ⟨h.deepest, by omega⟩

theorem Reached.behind {settings : Settings} {part : Part} {state next : State} {filter : Filter}
    {log : Log} (h : Reached settings.maxDepth state.depth before)
    (hread : read settings part state = .done filter next log) :
    ∃ consumed, state.unread = consumed ++ next.unread ∧
      Reached settings.maxDepth next.depth (before ++ consumed) := by
  obtain ⟨hdepth, n, hn, derivation⟩ := read_sound.1 part state hread
  rw [hdepth]
  exact h.derives derivation hn

end Reached

/-! ## Nothing is left to be joined -/

theorem Connective.eq_or_member_le {connective connective' : Connective}
    (h : connective.binding ≤ connective'.binding) :
    connective' = connective ∨ connective.member.binding ≤ connective'.binding := by
  cases connective <;> cases connective' <;> revert h <;> decide

/-- Behind a chain nothing follows that its connective or a tighter one joins: a chain stops where
its connective does not go on, and its last member has stopped there before. -/
theorem read_settled {settings : Settings} :
    (∀ part state, ∀ {filter next log}, read settings part state = .done filter next log →
      ∀ connective : Connective, part.binding ≤ connective.binding →
        afterJoint? connective next.unread = none) ∧
    ∀ connective left state, ∀ {filter next log},
      (∀ connective' : Connective, connective.member.binding ≤ connective'.binding →
        afterJoint? connective' state.unread = none) →
      readOn settings connective left state = .done filter next log →
      ∀ connective' : Connective, connective.binding ≤ connective'.binding →
        afterJoint? connective' next.unread = none := by
  apply read_induction
  case operand =>
    intro state _ filter next log _ connective hle
    cases connective <;> exact absurd hle (by decide)
  case chain =>
    intro connective state ih ihOn filter next log h connective' hle
    rw [read_chain] at h
    obtain ⟨left, middle, earlier, own, hleft, hright, -⟩ := Reply.andThen_eq_done_iff.mp h
    exact ihOn left middle earlier hleft (ih hleft) hright connective' hle
  case more =>
    intro connective left state ih filter next log hstate h connective' hle
    rcases hjoint : afterJoint? connective state.unread with _ | unread
    · rw [readOn_none hjoint] at h
      cases h
      rcases Connective.eq_or_member_le hle with rfl | hmember
      · exact hjoint
      · exact hstate connective' hmember
    · rw [readOn_some hjoint] at h
      obtain ⟨ihMember, ihOn⟩ := ih unread hjoint
      obtain ⟨right, middle, earlier, own, hright, hmore, -⟩ := Reply.andThen_eq_done_iff.mp h
      exact ihOn right middle earlier hright (ihMember hright) hmore connective' hle

theorem afterConnective?_of_read {settings : Settings} {state next : State} {filter : Filter}
    {log : Log} (h : read settings (.chain .or) state = .done filter next log)
    (connective : Connective) : afterConnective? connective next.unread = none := by
  have hnone := read_settled.1 (.chain .or) state h connective (by cases connective <;> decide)
  cases connective with
  | or => exact hnone
  | and =>
    simp only [afterJoint?] at hnone
    split at hnone
    · cases hnone
    · assumption

theorem isBlank_of_isValueChar {c : Char} (h : isValueChar c = true) : isBlank c = false := by
  simp only [isValueChar, Bool.or_eq_true, beq_iff_eq] at h
  rcases h with (h | rfl) | rfl
  · exact isBlank_of_isAlphanumeric h
  · decide +kernel
  · decide +kernel

theorem Run.exists_last {p : Char → Bool} {run : List Char} (h : Run p run) :
    ∃ init c, run = init ++ [c] ∧ p c = true :=
  ⟨run.dropLast, run.getLast h.ne_nil, (List.dropLast_concat_getLast h.ne_nil).symm,
    h.all _ (List.getLast_mem h.ne_nil)⟩

/-- What a derivation takes up does not end in a blank. -/
theorem Derives.exists_last {part : Part} {n : Nat} {filter : Filter} {text rest : List Char}
    (h : Derives part n filter text rest) :
    ∃ init c, text = init ++ c :: rest ∧ isBlank c = false := by
  induction h with
  | @pair name text rest value hname hvalue =>
    cases hvalue with
    | @quoted body _ hbody =>
      exact ⟨name ++ ':' :: quoteMark :: body, quoteMark, by simp, isBlank_quoteMark⟩
    | @bare run _ hrun hrest =>
      obtain ⟨init, c, rfl, hc⟩ := hrun.exists_last
      exact ⟨name ++ ':' :: init, c, by simp, isBlank_of_isValueChar hc⟩
  | @tag polarity name rest hname hrest =>
    obtain ⟨init, c, rfl, hc⟩ := hname.exists_last
    exact ⟨polarity.sign :: init, c, by simp, isBlank_of_isAlphanumeric hc⟩
  | @group n filter before text behind rest _ derivation _ ih =>
    obtain ⟨init, c, rfl, -⟩ := ih
    exact ⟨'(' :: (before ++ (init ++ c :: behind)), ')', by simp, isBlank_parenthesis.2⟩
  | single _ ih => exact ih
  | @joined connective m n left right text middle middle' rest _ joint _ ihLeft ihRight =>
    obtain ⟨init, c, rfl, -⟩ := ihLeft
    obtain ⟨init', c', rfl, hc'⟩ := ihRight
    obtain ⟨between, rfl, -⟩ := joint.plain
    exact ⟨init ++ c :: (between ++ init'), c', by simp, hc'⟩

/-- Behind the blanks after a chain of `or` the same groups are open as in front of it, and nothing
is left to be joined. -/
theorem reached_of_read {settings : Settings} {state next : State} {filter : Filter} {log : Log}
    {before : List Char} (hread : read settings (.chain .or) state = .done filter next log)
    (h : Reached settings.maxDepth state.depth before) :
    ∃ consumed, state.unread = consumed ++ skipBlanks next.unread ∧
      Reached settings.maxDepth state.depth (before ++ consumed) ∧
      Settled (before ++ consumed) (skipBlanks next.unread) := by
  obtain ⟨-, n, hn, derivation⟩ := read_sound.1 (.chain .or) state hread
  obtain ⟨consumed, htext, hconsumed⟩ := h.derives derivation hn
  obtain ⟨init, c, hlast, hc⟩ := derivation.exists_last
  obtain ⟨blanks, hunread, hblanks⟩ := exists_blanks next.unread
  obtain rfl : consumed = init ++ [c] := by
    rw [htext, List.append_cons, List.append_cancel_right_eq] at hlast
    exact hlast
  refine ⟨init ++ [c] ++ blanks, ?_, ?_, ?_, ?_⟩
  · rw [htext, List.append_assoc _ blanks, ← hunread]
  · rw [← List.append_assoc]
    exact hconsumed.plain hblanks.plain
  · intro connective
    have hword := afterConnective?_of_read hread connective
    rwa [afterConnective?, Option.map_eq_none_iff] at hword
  · rintro ⟨c', hc', hblank⟩
    -- The disjunction does not end in a blank, so there is one behind it.
    have hne : blanks ≠ [] := by
      rintro rfl
      rw [List.append_nil, ← List.append_assoc, List.getLast?_concat, Option.some.injEq] at hc'
      rw [hc', hblank] at hc
      cases hc
    have hlt : (skipBlanks next.unread).length < next.unread.length := by
      have hlen := congrArg List.length hunread
      have := List.length_pos_iff.mpr hne
      rw [List.length_append] at hlen
      omega
    have hnone := read_settled.1 (.chain .or) state hread .and (by decide)
    simp only [afterJoint?, afterConnective?_of_read hread .and] at hnone
    cases hstart : startsOperand (skipBlanks next.unread) with
    | false => rfl
    | true =>
      rw [if_pos ⟨hlt, hstart⟩] at hnone
      cases hnone

/-! ## Faults of the readers -/

/-- The fault is borne out at its place, which is reached behind `before` and some of the text. -/
def Justified (limit : Nat) (before text : List Char) (fault : Fault) : Prop :=
  ∃ consumed depth, text = consumed ++ fault.unread ∧ Reached limit depth (before ++ consumed) ∧
    BornOut limit (before ++ consumed) fault.unread fault.cause.kind

theorem Justified.prepend {limit : Nat} {before consumed text : List Char} {fault : Fault}
    (h : Justified limit (before ++ consumed) text fault) :
    Justified limit before (consumed ++ text) fault := by
  obtain ⟨consumed', depth, htext, hreached, hborn⟩ := h
  rw [List.append_assoc] at hreached hborn
  exact ⟨consumed ++ consumed', depth, by rw [htext, List.append_assoc], hreached, hborn⟩

/-- A fault at the start of the text that is left. -/
theorem Reached.justified {limit depth : Nat} {before text : List Char} {cause : Cause}
    (h : Reached limit depth before) (hborn : BornOut limit before text cause.kind) :
    Justified limit before text ⟨cause, text⟩ := by
  refine ⟨[], depth, rfl, ?_, ?_⟩ <;> rwa [List.append_nil]

/-- Behind the separator of a key. -/
theorem Reached.separator {limit depth : Nat} {before name : List Char}
    (h : Reached limit depth before) (hname : Run isKeyChar name) :
    Reached limit depth (before ++ name ++ [':']) :=
  (h.plain hname.plain).plain (by simp [Plain, quoteMark])

/-- A fault of a tag or of an attribute pair, or where neither starts. -/
theorem LeafFault.justified {limit depth : Nat} {before text : List Char} {fault : Fault}
    (h : LeafFault text fault) (hstart : Stops isBlank text)
    (hreached : Reached limit depth before) : Justified limit before text fault := by
  cases h with
  | nothing => exact hreached.justified (by simp [BornOut, Cause.kind])
  | @other c rest hgroup hsign hkey =>
    have hplus : c ≠ '+' := by
      rintro rfl
      cases hsign
    have hminus : c ≠ '-' := by
      rintro rfl
      cases hsign
    refine hreached.justified fun c' hc' => ?_
    obtain rfl := Option.some.inj hc'
    exact ⟨stops_cons.mp hstart, hgroup, hplus, hminus, hkey⟩
  | @noTagName polarity rest hrest =>
    have hsign : Reached limit depth (before ++ [polarity.sign]) :=
      hreached.plain (by simpa using plain_sign polarity)
    show Justified limit before ([polarity.sign] ++ rest) _
    refine Justified.prepend (hsign.justified ⟨?_, hrest⟩)
    rw [List.getLast?_concat]
    cases polarity
    · exact .inl rfl
    · exact .inr rfl
  | @noSeparator name rest hname hrest =>
    refine Justified.prepend ((hreached.plain hname.plain).justified ⟨?_, hrest⟩)
    obtain ⟨init, c, rfl, hc⟩ := hname.exists_last
    exact ⟨c, by rw [← List.append_assoc, List.getLast?_concat], hc⟩
  | @noValue name rest hname hquote hrest =>
    have hlater : Justified limit (before ++ name ++ [':']) rest ⟨.noValue, rest⟩ :=
      (hreached.separator hname).justified ⟨List.getLast?_concat, hrest, hquote⟩
    exact hlater.prepend.prepend
  | @openQuote name body hname hbody =>
    have hlater : Justified limit (before ++ name ++ [':']) (quoteMark :: body)
        ⟨.openQuote, quoteMark :: body⟩ :=
      (hreached.separator hname).justified ⟨List.getLast?_concat, body, rfl, hbody⟩
    exact hlater.prepend.prepend

/-- What stands behind skipped blanks, if it is no closing parenthesis. -/
theorem exists_other_of_skipBlanks {text rest : List Char} (h : rest = skipBlanks text)
    (hne : rest ≠ []) (hhead : rest.head? ≠ some ')') :
    ∃ c tail, rest = c :: tail ∧ isBlank c = false ∧ c ≠ ')' := by
  have hstops : Stops isBlank rest := h ▸ stops_skipBlanks text
  obtain ⟨c, tail, rfl⟩ := List.exists_cons_of_ne_nil hne
  exact ⟨c, tail, rfl, stops_cons.mp hstops, by simpa using hhead⟩

theorem closeGroup_justified {limit depth : Nat} {before opening : List Char} {inner : Filter}
    {state : State} {fault : Fault} {log : Log}
    (h : closeGroup opening inner state = .failed fault log)
    (hreached : Reached limit (depth + 1) before)
    (hsettled : Settled before (skipBlanks state.unread)) :
    Justified limit before (skipBlanks state.unread) fault := by
  obtain ⟨cause, unread⟩ := fault
  obtain ⟨hunread, hhead, ⟨hkind, hmem⟩ | ⟨hkind, hmem⟩⟩ := closeGroup_eq_failed h
  all_goals
    dsimp only at hunread hhead hkind hmem
    rw [← hunread] at hsettled ⊢
    apply hreached.justified
    rw [hkind]
  · exact ⟨exists_other_of_skipBlanks hunread (List.ne_nil_of_mem hmem) hhead, .inr hmem, hsettled⟩
  · have hopened : 0 < (groupsOf before).opened := by
      rw [hreached.opened]
      exact Nat.succ_pos depth
    exact .inr ⟨hopened, hmem⟩

theorem endOfText_justified {limit : Nat} {before : List Char} {inner : Filter} {state : State}
    {fault : Fault} {log : Log} (h : endOfText inner state = .failed fault log)
    (hreached : Reached limit 0 before) (hsettled : Settled before (skipBlanks state.unread)) :
    Justified limit before (skipBlanks state.unread) fault := by
  obtain ⟨cause, unread⟩ := fault
  obtain ⟨hunread, hne, hcases⟩ := endOfText_eq_failed h
  dsimp only at hunread hne hcases
  rw [← hunread] at hsettled ⊢
  apply hreached.justified
  rcases hcases with ⟨rfl, hhead⟩ | ⟨hkind, hhead⟩
  · exact .inl ⟨hhead, hreached.opened⟩
  · rw [hkind]
    exact ⟨exists_other_of_skipBlanks hunread hne hhead, .inl hreached.opened, hsettled⟩

/-- A fault of a group, if those of the disjunction in it are borne out. -/
theorem group_justified {settings : Settings} {inside before : List Char} {depth : Nat}
    {fault : Fault} {log : Log}
    (h : read settings .operand ⟨'(' :: inside, depth⟩ = .failed fault log)
    (hinner : ∀ {fault log},
      read settings (.chain .or) ⟨skipBlanks inside, depth + 1⟩ = .failed fault log →
      ∀ {before}, Reached settings.maxDepth (depth + 1) before →
      Justified settings.maxDepth before (skipBlanks inside) fault)
    (hreached : Reached settings.maxDepth depth before) :
    Justified settings.maxDepth before ('(' :: inside) fault := by
  rw [read_group] at h
  split at h
  · next hdepth =>
    cases h
    refine hreached.justified ⟨rfl, ?_⟩
    rw [hreached.opened]
    exact Nat.le_antisymm hreached.depth_le hdepth
  · next hdepth =>
    obtain ⟨blanks, hinside, hblanks⟩ := exists_blanks inside
    have hentered : Reached settings.maxDepth (depth + 1) (before ++ ['('] ++ blanks) :=
      (hreached.enter (Nat.lt_of_not_le hdepth)).plain hblanks.plain
    have hlater : Justified settings.maxDepth (before ++ ['('] ++ blanks) (skipBlanks inside)
        fault := by
      rcases Reply.andThen_eq_failed_iff.mp h with
        hfailed | ⟨inner, next, earlier, own, hdone, hclose, -⟩
      · exact hinner hfailed hentered
      · obtain ⟨consumed, htext, hended, hsettled⟩ := reached_of_read hdone hentered
        dsimp only at htext
        rw [htext]
        exact (closeGroup_justified hclose hended hsettled).prepend
    rw [hinside]
    exact hlater.prepend.prepend

/-- Every fault of a reader is borne out. An operand is looked for at its start, behind the blanks;
further members are looked for with the blanks in front of them. -/
theorem read_justified {settings : Settings} :
    (∀ part state, ∀ {fault log}, read settings part state = .failed fault log →
      Stops isBlank state.unread → ∀ {before}, Reached settings.maxDepth state.depth before →
      Justified settings.maxDepth before state.unread fault) ∧
    ∀ connective left state, ∀ {fault log},
      readOn settings connective left state = .failed fault log →
      ∀ {before}, Reached settings.maxDepth state.depth before →
      Justified settings.maxDepth before state.unread fault := by
  apply read_induction
  case operand =>
    rintro ⟨text, depth⟩ ih fault log h hstart before hreached
    by_cases hgroup : text.head? = some '('
    · obtain ⟨inside, rfl⟩ := List.head?_eq_some_iff.mp hgroup
      exact group_justified h (fun hfailed => ih inside rfl hfailed (stops_skipBlanks inside))
        hreached
    · exact (leafFault_of_operand hgroup h).justified hstart hreached
  case chain =>
    intro connective state ih ihOn fault log h hstart before hreached
    rw [read_chain] at h
    rcases Reply.andThen_eq_failed_iff.mp h with hleft | ⟨left, next, earlier, own, hleft, hmore, -⟩
    · exact ih hleft hstart hreached
    · obtain ⟨consumed, htext, hnext⟩ := hreached.behind hleft
      rw [htext]
      exact (ihOn left next earlier hleft hmore hnext).prepend
  case more =>
    intro connective left state ih fault log h before hreached
    rcases hjoint : afterJoint? connective state.unread with _ | unread
    · rw [readOn_none hjoint] at h
      cases h
    · rw [readOn_some hjoint] at h
      obtain ⟨ihMember, ihOn⟩ := ih unread hjoint
      obtain ⟨joint, hstart⟩ := joint_of_afterJoint? hjoint
      obtain ⟨between, htext, hbetween⟩ := joint.plain
      have hjoined : Reached settings.maxDepth (State.mk unread state.depth).depth
          (before ++ between) := hreached.plain hbetween
      rw [htext]
      apply Justified.prepend
      rcases Reply.andThen_eq_failed_iff.mp h with
        hright | ⟨right, next, earlier, own, hright, hmore, -⟩
      · exact ihMember hright hstart hjoined
      · obtain ⟨consumed, htext, hnext⟩ := hjoined.behind hright
        dsimp only at htext
        rw [htext]
        exact (ihOn right next earlier hright hmore hnext).prepend

/-! ## Errors of whole texts -/

section Parse

variable {settings : Settings}

theorem wholeText_justified {text : List Char} {fault : Fault} {log : Log}
    (h : wholeText settings text = .failed fault log) :
    Justified settings.maxDepth [] text fault := by
  obtain ⟨blanks, htext, hblanks⟩ := exists_blanks text
  have hreached : Reached settings.maxDepth 0 ([] ++ blanks) :=
    (reached_nil settings.maxDepth).plain hblanks.plain
  rw [htext]
  apply Justified.prepend
  rcases Reply.andThen_eq_failed_iff.mp h with hread | ⟨filter, next, earlier, own, hread, hend, -⟩
  · exact read_justified.1 (.chain .or) _ hread (stops_skipBlanks text) hreached
  · obtain ⟨consumed, hskip, hended, hsettled⟩ := reached_of_read hread hreached
    dsimp only at hskip
    rw [hskip]
    exact (endOfText_justified hend hended hsettled).prepend

/-- The place of a fault is given by the text in front of it. -/
theorem Fault.position_errorIn (fault : Fault) (before : List Char) :
    (fault.errorIn (before ++ fault.unread)).position = byteLength before := by
  rw [Fault.errorIn, Cause.position_errorAt, offset_append]

theorem exists_position_errorIn {text : List Char} {fault : Fault} {log : Log}
    (h : wholeText settings text = .failed fault log) :
    ∃ before, text = before ++ fault.unread ∧
      (fault.errorIn text).position = byteLength before := by
  obtain ⟨before, -, htext, -, -⟩ := wholeText_justified h
  exact ⟨before, htext, htext ▸ fault.position_errorIn before⟩

/-- An error that is not about the length of the text is a fault of the readers. -/
theorem exists_fault {input : String} {error : SyntaxError}
    (h : (settings.parse input).result = .error error) (hkind : error.kind ≠ .inputTooLong) :
    ∃ fault log, wholeText settings input.toList = .failed fault log ∧
      error = fault.errorIn input.toList := by
  rw [Settings.parse] at h
  split at h
  · obtain rfl := Except.error.inj h
    exact absurd rfl hkind
  · rcases hwhole : wholeText settings input.toList with ⟨filter, next, log⟩ | ⟨fault, log⟩
    · rw [hwhole] at h
      cases h
    · rw [hwhole] at h
      exact ⟨fault, log, rfl, (Except.error.inj h).symm⟩

/-- Every error of a text that is not too long is a fault of the readers. -/
theorem exists_fault_of_fits {input : String} {error : SyntaxError}
    (hlength : ∀ limit, settings.maxLength = some limit → input.utf8ByteSize ≤ limit)
    (h : (settings.parse input).result = .error error) :
    ∃ fault log, wholeText settings input.toList = .failed fault log ∧
      error = fault.errorIn input.toList := by
  rw [parse_of_fits hlength] at h
  rcases hwhole : wholeText settings input.toList with ⟨filter, next, log⟩ | ⟨fault, log⟩
  · rw [hwhole] at h
    cases h
  · rw [hwhole] at h
    exact ⟨fault, log, rfl, (Except.error.inj h).symm⟩

/-- A fault of the readers is the error of a text that is not too long. -/
theorem parse_of_failed {input : String} {fault : Fault} {log : Log}
    (hlength : ∀ limit, settings.maxLength = some limit → input.utf8ByteSize ≤ limit)
    (h : wholeText settings input.toList = .failed fault log) :
    (settings.parse input).result = .error (fault.errorIn input.toList) := by
  rw [parse_of_fits hlength, h]
  rfl

@[simp]
theorem Fault.kind_errorIn (fault : Fault) (text : List Char) :
    (fault.errorIn text).kind = fault.cause.kind := by
  rw [Fault.errorIn, Cause.kind_errorAt]

/-- An error that is not about the length of the text stands at the start of a character or at the
end, and what its kind says is what the text shows there. -/
theorem parse_error_bornOut (settings : Settings) (input : String) (error : SyntaxError)
    (h : (settings.parse input).result = .error error) (hkind : error.kind ≠ .inputTooLong) :
    error.kind ≠ .invalidKey ∧ error.position ≤ input.utf8ByteSize ∧
      ∃ before rest, input.toList = before ++ rest ∧ error.position = byteLength before ∧
        BornOut settings.maxDepth before rest error.kind := by
  obtain ⟨fault, log, hwhole, rfl⟩ := exists_fault h hkind
  obtain ⟨before, depth, htext, -, hborn⟩ := wholeText_justified hwhole
  rw [List.nil_append] at hborn
  have hposition : (fault.errorIn input.toList).position = byteLength before := by
    rw [Fault.errorIn, Cause.position_errorAt, htext, offset_append]
  refine ⟨?_, ?_, before, fault.unread, htext, hposition, hborn⟩
  · intro hinvalid
    rw [Fault.errorIn, Cause.kind_errorAt] at hinvalid
    rw [hinvalid] at hborn
    exact hborn
  · rw [hposition, ← byteLength_toList, htext, byteLength_append]
    exact Nat.le_add_right _ _

/-- A group that stays open, behind a quoted parenthesis and blanks that join nothing. -/
theorem parse_error_bornOut_openGroup :
    let error : SyntaxError := ⟨.unmatchedParenthesis, 12,
      "expected closing parenthesis for '(' at position 7"⟩
    (Settings.parse {} "é:'(' (b:2 c").result = .error error ∧
      error.kind ≠ .inputTooLong ∧ error.kind ≠ .invalidKey ∧
      error.position ≤ "é:'(' (b:2 c".utf8ByteSize ∧
      ∃ before rest, "é:'(' (b:2 c".toList = before ++ rest ∧
        error.position = byteLength before ∧ BornOut 64 before rest error.kind := by
  intro error
  have hresult : (Settings.parse {} "é:'(' (b:2 c").result = .error error := by
    have hwhole : wholeText {} "é:'(' (b:2 c".toList = .failed ⟨.openGroup 5, ['c']⟩
        [.pair (.userDefined "é") "(", .pair (.userDefined "b") "2"] := by
      decide +kernel
    have herror : Fault.errorIn ⟨.openGroup 5, ['c']⟩ "é:'(' (b:2 c".toList = error := by
      decide +kernel
    rw [parse_of_fits (by nofun), hwhole, ← herror]
    rfl
  exact ⟨hresult, by decide, parse_error_bornOut {} _ error hresult (by decide)⟩

end Parse

end FilterQuery
