import FilterQuery.Proofs.Completion

/-!
# Faults that more text cannot mend

Some faults stay where they are however the text goes on: all that reading has looked at by then
stands in front of the place of the fault, or is the character there.

* `ErrorKind.committed`: the kinds of such errors. `Fault.Committed`: the faults, to which a closing
  parenthesis without an opening one belongs.
* `afterJoint?_append`: what joins two members of a chain still does so in a longer text.
* `read_committed`: the readers fail in the same way on the longer text.
* `parse_error_persists`: so the error stays the same, with its place and its words.
-/

namespace FilterQuery

open Text

/-! ## Committed faults -/

/-- The kinds of errors that stay, unless they are reported for the end of the text. -/
def ErrorKind.committed : List ErrorKind :=
  [.emptyValue, .missingSeparator, .emptyTagName, .unrecognizedOperand, .nestingTooDeep]

/-- Text is left at the place of the fault, and the kind is a committed one, or it is a closing
parenthesis that has no partner. -/
structure Fault.Committed (fault : Fault) : Prop where
  ne_nil : fault.unread ≠ []
  kind : fault.cause.kind ∈ ErrorKind.committed ∨
    fault.cause.kind = .unmatchedParenthesis ∧ fault.unread.head? = some ')'

/-- The same fault in a text that goes on with `more`. -/
def Fault.extend (fault : Fault) (more : List Char) : Fault :=
  ⟨fault.cause, fault.unread ++ more⟩

theorem LeafFault.extend {text : List Char} {fault : Fault} (h : LeafFault text fault)
    (hfault : fault.Committed) (more : List Char) :
    LeafFault (text ++ more) (fault.extend more) := by
  cases h with
  | nothing => exact absurd rfl hfault.ne_nil
  | other rest hgroup hsign hkey => exact .other (rest ++ more) hgroup hsign hkey
  | noTagName polarity hrest => exact .noTagName polarity (hrest.append hfault.ne_nil more)
  | noSeparator hname hrest =>
    rw [List.append_assoc]
    exact .noSeparator hname (hrest.append hfault.ne_nil more)
  | @noValue name rest hname hquote hrest =>
    rw [List.append_assoc]
    refine .noValue hname ?_ (hrest.append hfault.ne_nil more)
    obtain ⟨c, tail, rfl⟩ := List.exists_cons_of_ne_nil hfault.ne_nil
    exact hquote
  | openQuote hname hbody =>
    have hkind := hfault.kind
    simp [Cause.kind, ErrorKind.committed] at hkind

/-! ## Longer texts -/

theorem startsOperand_append {text : List Char} (h : startsOperand text = true)
    (more : List Char) : startsOperand (text ++ more) = true := by
  rcases startsOperand_iff.mp h with
    ⟨inside, rfl⟩ | ⟨polarity, rest, rfl⟩ | ⟨name, rest, hname, rfl⟩
  · exact startsOperand_group (inside ++ more)
  · exact startsOperand_sign polarity (rest ++ more)
  · rw [List.append_assoc]
    exact startsOperand_key hname (rest ++ more)

theorem afterConnective?_append {connective : Connective} {text rest : List Char}
    (h : afterConnective? connective text = some rest) (hne : rest ≠ []) (more : List Char) :
    afterConnective? connective (text ++ more) = some (rest ++ more) := by
  obtain ⟨before, behind, rfl, hbefore, hbehind, hword, hrest⟩ :=
    exists_word_of_afterConnective? h
  have hword' : continuesWord (behind ++ (rest ++ more)) = false :=
    ((replaces_append hne more).append behind).continuesWord hword
  have hsome : afterConnective? connective _ = _ := afterConnective?_word hbefore hbehind hword'
  rw [skipBlanks_of_stops (hrest.append hne more)] at hsome
  simpa using hsome

/-- What joins two members does so in a longer text, if text was left behind it. -/
theorem afterJoint?_append {connective : Connective} {text rest : List Char}
    (h : afterJoint? connective text = some rest) (hne : rest ≠ []) (more : List Char) :
    afterJoint? connective (text ++ more) = some (rest ++ more) := by
  rcases hword : afterConnective? connective text with _ | rest'
  · cases connective with
    | or => cases hword.symm.trans h
    | and =>
      have hstart : startsOperand rest = true := by
        simp only [afterJoint?, hword] at h
        split at h
        · next hblanks =>
          obtain rfl := Option.some.inj h
          exact hblanks.2
        · cases h
      obtain ⟨joint, -⟩ := joint_of_afterJoint? h
      obtain ⟨between, rfl, -, hbetween⟩ := joint.followed
      rw [List.append_assoc]
      exact afterJoint?_of_joint (hbetween (replaces_append hne more))
        (startsOperand_append hstart more)
  · have hjoint := afterJoint?_of_afterConnective? hword
    obtain rfl := Option.some.inj (hjoint.symm.trans h)
    exact afterJoint?_of_afterConnective? (afterConnective?_append hword hne more)

section Read

variable {settings : Settings}

/-- A member that was read in front of some text is read in front of more. -/
theorem read_member_append {connective : Connective} {state next : State} {filter : Filter}
    {log : Log} (h : read settings connective.member state = .done filter next log)
    (hne : next.unread ≠ []) {more : List Char}
    (hend : connective = .or → endsConjunction (skipBlanks (next.unread ++ more)) = true) :
    ∃ log', read settings connective.member ⟨state.unread ++ more, state.depth⟩ =
      .done filter ⟨next.unread ++ more, next.depth⟩ log' := by
  obtain ⟨hdepth, n, hn, derivation⟩ := read_sound.1 _ _ h
  obtain ⟨consumed, htext, -, hconsumed⟩ := derivation.followed
  have hlonger := (hconsumed (replaces_append hne more)).read_eq hn
    fun h => absurd h connective.member_ne_or
  rw [finish_member hend] at hlonger
  rw [htext, hdepth, List.append_assoc]
  exact ⟨_, hlonger⟩

theorem unread_ne_nil_of_read {part : Part} {state : State} {fault : Fault} {log : Log}
    (h : read settings part state = .failed fault log) (hne : fault.unread ≠ []) :
    state.unread ≠ [] := by
  obtain ⟨consumed, opened, hplace, -⟩ := read_mended.1 part state h
  rw [hplace.unread]
  simp [hne]

/-- Where a chain goes on to fail, its connective is found, with text behind it. -/
theorem exists_joint_of_readOn {connective : Connective} {left : Filter} {state : State}
    {fault : Fault} {log : Log} (h : readOn settings connective left state = .failed fault log)
    (hne : fault.unread ≠ []) :
    ∃ unread, afterJoint? connective state.unread = some unread ∧ unread ≠ [] := by
  rcases hjoint : afterJoint? connective state.unread with _ | unread
  · cases (readOn_none hjoint).symm.trans h
  · refine ⟨unread, rfl, ?_⟩
    rw [readOn_some hjoint] at h
    rcases Reply.andThen_eq_failed_iff.mp h with hfailed | ⟨right, next, earlier, own, hright, -⟩
    · exact unread_ne_nil_of_read hfailed hne
    · exact List.ne_nil_of_length_pos (Nat.zero_lt_of_lt (length_member_lt hright))

/-- The chain behind a member fails in a longer text if it does so behind that member. -/
theorem andThen_readOn_append {connective : Connective} {state next : State} {filter : Filter}
    {log own : Log} {fault : Fault} {combine : Filter → Filter} {more : List Char}
    (hmember : read settings connective.member state = .done filter next log)
    (hmore : readOn settings connective (combine filter) next = .failed fault own)
    (hne : fault.unread ≠ [])
    (hlonger : ∃ log', readOn settings connective (combine filter)
      ⟨next.unread ++ more, next.depth⟩ = .failed (fault.extend more) log') :
    ∃ log', ((read settings connective.member ⟨state.unread ++ more, state.depth⟩).andThen
      fun right => readOn settings connective (combine right)) =
        .failed (fault.extend more) log' := by
  obtain ⟨unread, hjoint, hunread⟩ := exists_joint_of_readOn hmore hne
  have hnext : next.unread ≠ [] :=
    List.ne_nil_of_length_pos (Nat.zero_lt_of_lt (length_afterJoint?_lt hjoint))
  -- A conjunction in front of `or` is complete, since that word is still found behind it.
  have hend : connective = .or → endsConjunction (skipBlanks (next.unread ++ more)) = true := by
    rintro rfl
    exact endsConjunction_of_joint (joint_of_afterJoint? (afterJoint?_append hjoint hunread more)).1
  obtain ⟨log', hsame⟩ := read_member_append hmember hnext hend
  obtain ⟨log'', hfailed⟩ := hlonger
  rw [hsame, Reply.done_andThen, hfailed]
  exact ⟨_, rfl⟩

theorem not_committed_of_closeGroup {opening : List Char} {inner : Filter} {state : State}
    {fault : Fault} {log : Log} (h : closeGroup opening inner state = .failed fault log) :
    ¬fault.Committed := by
  obtain ⟨-, hhead, hkind⟩ := closeGroup_eq_failed h
  rintro ⟨-, hcommitted | ⟨-, hclosing⟩⟩
  · rcases hkind with ⟨hkind, -⟩ | ⟨hkind, -⟩ <;> rw [hkind] at hcommitted <;> revert hcommitted <;>
      decide
  · exact hhead hclosing

/-- A committed fault of a reader is the same fault in every longer text. -/
theorem read_committed (more : List Char) :
    (∀ part state, ∀ {fault log}, read settings part state = .failed fault log →
      fault.Committed → ∃ log', read settings part ⟨state.unread ++ more, state.depth⟩ =
        .failed (fault.extend more) log') ∧
    ∀ connective left state, ∀ {fault log},
      readOn settings connective left state = .failed fault log →
      fault.Committed → ∃ log', readOn settings connective left
        ⟨state.unread ++ more, state.depth⟩ = .failed (fault.extend more) log' := by
  apply read_induction
  case operand =>
    rintro ⟨text, depth⟩ ih fault log h hfault
    by_cases hgroup : text.head? = some '('
    · obtain ⟨inside, rfl⟩ := List.head?_eq_some_iff.mp hgroup
      rw [List.cons_append, read_group]
      rw [read_group] at h
      split at h
      · next hdepth =>
        cases h
        rw [if_pos hdepth]
        exact ⟨[], rfl⟩
      · next hdepth =>
        rw [if_neg hdepth]
        rcases Reply.andThen_eq_failed_iff.mp h with
          hfailed | ⟨inner, next, earlier, own, hdone, hclose, -⟩
        · obtain ⟨log', hlonger⟩ := ih inside rfl hfailed hfault
          rw [skipBlanks_extend (unread_ne_nil_of_read hfailed hfault.ne_nil), hlonger]
          exact ⟨log', rfl⟩
        · exact absurd hfault (not_committed_of_closeGroup hclose)
    · exact ⟨[], ((leafFault_of_operand hgroup h).extend hfault more).operand_eq⟩
  case chain =>
    intro connective state ih ihOn fault log h hfault
    rw [read_chain] at h ⊢
    rcases Reply.andThen_eq_failed_iff.mp h with
      hfailed | ⟨left, next, earlier, own, hleft, hmore, -⟩
    · obtain ⟨log', hlonger⟩ := ih hfailed hfault
      rw [hlonger]
      exact ⟨log', rfl⟩
    · exact andThen_readOn_append hleft hmore hfault.ne_nil
        (ihOn left next earlier hleft hmore hfault)
  case more =>
    intro connective left state ih fault log h hfault
    obtain ⟨unread, hjoint, hne⟩ := exists_joint_of_readOn h hfault.ne_nil
    obtain ⟨ihMember, ihOn⟩ := ih unread hjoint
    rw [readOn_some hjoint] at h
    rw [readOn_some (afterJoint?_append hjoint hne more)]
    rcases Reply.andThen_eq_failed_iff.mp h with
      hfailed | ⟨right, next, earlier, own, hright, hmore, -⟩
    · obtain ⟨log', hlonger⟩ := ihMember hfailed hfault
      rw [hlonger]
      exact ⟨log', rfl⟩
    · exact andThen_readOn_append hright hmore hfault.ne_nil
        (ihOn right next earlier hright hmore hfault)

/-! ## Whole texts -/

/-- A disjunction in front of a closing parenthesis is read as a whole. -/
theorem EndsBefore.read_closing {text body blanks rest : List Char} {filter : Filter} {depth : Nat}
    (h : EndsBefore settings.maxDepth ⟨text, depth⟩ filter body blanks rest) (behind : List Char) :
    read settings (.chain .or) ⟨body ++ (blanks ++ ')' :: behind), depth⟩ =
      .done filter ⟨blanks ++ ')' :: behind, depth⟩ (filter.readLog settings) := by
  obtain ⟨n, hn, derivation⟩ := h.derives
  have hclosing := h.plain.closing behind
  rw [(derivation _ (stops_closing behind)).read_eq hn
    fun _ => endsConjunction_of_closing hclosing, finish_chain,
    readOn_none (afterJoint?_of_closing hclosing .or), Reply.after, List.append_nil]

theorem endOfText_closing {blanks : List Char} (h : Blanks blanks) (inner : Filter)
    (rest : List Char) (depth : Nat) :
    endOfText inner ⟨blanks ++ ')' :: rest, depth⟩ = .failed ⟨.strayClosing, ')' :: rest⟩ [] := by
  rw [endOfText]
  dsimp only
  rw [h.skip_closing]
  rfl

theorem wholeText_committed {text : List Char} {fault : Fault} {log : Log}
    (h : wholeText settings text = .failed fault log) (hfault : fault.Committed)
    (more : List Char) :
    ∃ log', wholeText settings (text ++ more) = .failed (fault.extend more) log' := by
  rw [wholeText]
  rcases Reply.andThen_eq_failed_iff.mp h with hread | ⟨inner, next, earlier, own, hread, hend, -⟩
  · have hread' : read settings (.chain .or) ⟨skipBlanks text, 0⟩ = .failed fault log := hread
    obtain ⟨log', hlonger⟩ := (read_committed more).1 (.chain .or) _ hread' hfault
    have hlonger' : disjunction settings _ = _ := hlonger
    rw [skipBlanks_extend (unread_ne_nil_of_read hread' hfault.ne_nil), hlonger']
    exact ⟨log', rfl⟩
  · obtain ⟨body, blanks, hends⟩ := endsBefore_of_read hread
    have hunread := hends.unread
    dsimp only at hunread
    obtain ⟨hskip, -, ⟨hcause, hhead⟩ | ⟨hkind, -⟩⟩ := endOfText_eq_failed hend
    · obtain ⟨cause, unread⟩ := fault
      obtain ⟨rest, rfl⟩ := List.head?_eq_some_iff.mp hhead
      obtain rfl : cause = .strayClosing := hcause
      have hne : skipBlanks text ≠ [] := by
        rw [hunread]
        simp [hends.ne_nil]
      have hmore : skipBlanks (text ++ more) = body ++ (blanks ++ ')' :: (rest ++ more)) := by
        rw [skipBlanks_extend hne, hunread, ← hskip]
        simp
      have hlonger : disjunction settings _ = _ := hends.read_closing (rest ++ more)
      rw [hmore, hlonger, Reply.done_andThen, endOfText_closing hends.plain]
      exact ⟨_, rfl⟩
    · have hcommitted := hfault.kind
      rw [hkind] at hcommitted
      simp [ErrorKind.committed] at hcommitted

end Read

/-- A committed error for a place in the text, or one for a closing parenthesis without a partner,
is the error of every text that goes on from there: the kind, the place and the words stay the
same. -/
theorem parse_error_persists (limit : Nat) (report : Bool) (input more : String)
    (error : SyntaxError)
    (h : (Settings.parse ⟨limit, none, report⟩ input).result = .error error)
    (hposition : error.position < input.utf8ByteSize)
    (hkind : error.kind ∈ ErrorKind.committed ∨ error.kind = .unmatchedParenthesis ∧
      ∃ rest, fromByte? input.toList error.position = some (')' :: rest)) :
    (Settings.parse ⟨limit, none, report⟩ (input ++ more)).result = .error error := by
  obtain ⟨fault, log, hwhole, rfl⟩ := exists_fault_of_fits (by nofun) h
  obtain ⟨before, htext, hplace⟩ := exists_position_errorIn hwhole
  have hfault : fault.Committed := by
    constructor
    · intro hnil
      rw [hplace, ← byteLength_toList, htext, hnil, List.append_nil] at hposition
      exact Nat.lt_irrefl _ hposition
    · refine hkind.imp id fun ⟨hunmatched, rest, hrest⟩ => ⟨hunmatched, ?_⟩
      rw [hplace, htext, fromByte?_append] at hrest
      rw [Option.some.inj hrest]
      rfl
  obtain ⟨log', hlonger⟩ := wholeText_committed hwhole hfault more.toList
  rw [parse_of_fits (by nofun), String.toList_append, hlonger]
  have hsame : (fault.extend more.toList).errorIn (input.toList ++ more.toList) =
      fault.errorIn input.toList := by
    rw [Fault.errorIn, Fault.extend, offset_append_right]
    rfl
  rw [← hsame]
  simp [Outcome.ofReply]

/-- A parenthesis that closes nothing, behind a quoted one: what follows it does not matter. -/
theorem parse_error_persists_closing :
    let error : SyntaxError := ⟨.unmatchedParenthesis, 7, "unmatched closing parenthesis"⟩
    (Settings.parse ⟨2, none, true⟩ "é:')' ) or").result = .error error ∧
      error.position < "é:')' ) or".utf8ByteSize ∧
      (error.kind ∈ ErrorKind.committed ∨ error.kind = .unmatchedParenthesis ∧
        ∃ rest, fromByte? "é:')' ) or".toList error.position = some (')' :: rest)) ∧
      (Settings.parse ⟨2, none, true⟩ ("é:')' ) or" ++ "(a:'")).result = .error error := by
  intro error
  have hresult : (Settings.parse ⟨2, none, true⟩ "é:')' ) or").result = .error error := by
    have hwhole : wholeText ⟨2, none, true⟩ "é:')' ) or".toList =
        .failed ⟨.strayClosing, [')', ' ', 'o', 'r']⟩ [.pair (.userDefined "é") ")"] := by
      decide +kernel
    have herror : Fault.errorIn ⟨.strayClosing, [')', ' ', 'o', 'r']⟩ "é:')' ) or".toList =
        error := by
      decide +kernel
    rw [parse_of_fits (by nofun), hwhole, ← herror]
    rfl
  have hposition : error.position < "é:')' ) or".utf8ByteSize := by decide
  have hclosing : error.kind ∈ ErrorKind.committed ∨ error.kind = .unmatchedParenthesis ∧
      ∃ rest, fromByte? "é:')' ) or".toList error.position = some (')' :: rest) :=
    .inr ⟨rfl, [' ', 'o', 'r'], by decide +kernel⟩
  exact ⟨hresult, hposition, hclosing,
    parse_error_persists 2 true _ "(a:'" error hresult hposition hclosing⟩

end FilterQuery
