import FilterQuery.Proofs.DepthLimit
import FilterQuery.Proofs.Faults
import FilterQuery.Proofs.Records
import FilterQuery.Proofs.Visits

/-!
# The log tells what was read

A reader leaves its records while it goes on, so what it has recorded cannot be taken back. The log
still mirrors what became of the text: a leaf is recorded where it becomes part of the filter, and
no reader takes up a leaf that it then gives up.

* `LeavesAlong`: leaves that stand one behind the other in a text.
* `Chronicles`: a reply whose records are those of leaves in front of where reading has got to.
  `read_chronicles`, `wholeText_chronicles`: the replies of the readers are like that.
* `Records`: the records of a log are those of the leaves that were read on some visits.
  `records_visits`: they are for every reader, so no leaf is recorded twice or not at all.
* `read_withoutHints`: the readers do the same whether or not keys are reported.
* `parse_logTells`: what the log of a whole text tells, for a filter and for an error.
-/

namespace FilterQuery

open Text

/-! ## Leaves along a text -/

/-- The leaves are written in the text, in front of `rest`, one behind the other. Between them any
other text may stand. -/
inductive LeavesAlong : List Filter → List Char → List Char → Prop
  | nil {skipped rest : List Char} : LeavesAlong [] (skipped ++ rest) rest
  | cons {leaf : Filter} {leaves : List Filter} {skipped text behind rest : List Char} :
      Derives .operand 0 leaf text behind → LeavesAlong leaves behind rest →
      LeavesAlong (leaf :: leaves) (skipped ++ text) rest

section LeavesAlong

variable {leaves leaves' : List Filter} {text middle rest : List Char}

theorem LeavesAlong.prepend (h : LeavesAlong leaves text rest) (skipped : List Char) :
    LeavesAlong leaves (skipped ++ text) rest := by
  cases h with
  | nil =>
    rw [← List.append_assoc]
    exact .nil
  | cons hleaf hleaves =>
    rw [← List.append_assoc]
    exact .cons hleaf hleaves

theorem LeavesAlong.append (h : LeavesAlong leaves text middle)
    (h' : LeavesAlong leaves' middle rest) : LeavesAlong (leaves ++ leaves') text rest := by
  induction h with
  | nil => exact h'.prepend _
  | cons hleaf _ ih => exact .cons hleaf (ih h')

theorem leavesAlong_of_suffix (h : rest <:+ text) : LeavesAlong [] text rest := by
  obtain ⟨skipped, rfl⟩ := h
  exact .nil

theorem leavesAlong_leaf {leaf : Filter} (h : Derives .operand 0 leaf text rest) :
    LeavesAlong [leaf] text rest := by
  have hleaf : LeavesAlong [leaf] ([] ++ text) rest :=
    .cons h (leavesAlong_of_suffix List.suffix_rfl)
  exact hleaf

/-- The records of the leaves, and nothing else. -/
theorem LeavesAlong.traces_log (h : LeavesAlong leaves text rest) (settings : Settings) :
    (Log.traces (leaves.flatMap (Filter.readLog settings))).map Record.leaf? = leaves.map some := by
  induction h with
  | nil => rfl
  | cons hleaf _ ih =>
    rw [List.flatMap_cons, Log.traces_append, List.map_append, ih, Filter.traces_readLog,
      leaves_of_derives hleaf]
    rfl

end LeavesAlong

/-! ## What the readers record -/

/-- The reply to a text records leaves that stand in front of where reading has got to. -/
def Chronicles (settings : Settings) (text : List Char) (reply : Reply Filter) : Prop :=
  ∃ leaves, reply.log = leaves.flatMap (Filter.readLog settings) ∧
    LeavesAlong leaves text reply.left

section Chronicles

variable {settings : Settings} {text : List Char}

theorem chronicles_of_nil {reply : Reply Filter} (hlog : reply.log = [])
    (hleft : reply.left <:+ text) : Chronicles settings text reply :=
  ⟨[], hlog, leavesAlong_of_suffix hleft⟩

theorem Chronicles.prepend {reply : Reply Filter} (h : Chronicles settings text reply)
    (skipped : List Char) : Chronicles settings (skipped ++ text) reply := by
  obtain ⟨leaves, hlog, hleaves⟩ := h
  exact ⟨leaves, hlog, hleaves.prepend skipped⟩

theorem Chronicles.andThen {first : Reply Filter} {second : Filter → State → Reply Filter}
    (h : Chronicles settings text first)
    (hsecond : ∀ filter next log, first = .done filter next log →
      Chronicles settings next.unread (second filter next)) :
    Chronicles settings text (first.andThen second) := by
  obtain ⟨leaves, hlog, hleaves⟩ := h
  rcases first with ⟨filter, next, earlier⟩ | ⟨fault, earlier⟩
  · obtain ⟨leaves', hlog', hleaves'⟩ := hsecond filter next earlier rfl
    refine ⟨leaves ++ leaves', ?_, ?_⟩
    · rw [Reply.done_andThen, Reply.log_after, hlog', List.flatMap_append, ← hlog]
      rfl
    · rw [Reply.done_andThen, Reply.left_after]
      exact hleaves.append hleaves'
  · exact ⟨leaves, hlog, hleaves⟩

theorem chronicles_closeGroup (opening : List Char) (inner : Filter) (state : State) :
    Chronicles settings state.unread (closeGroup opening inner state) := by
  have hskip : skipBlanks state.unread <:+ state.unread := List.dropWhile_suffix _
  by_cases hhead : (skipBlanks state.unread).head? = some ')'
  · obtain ⟨rest, hrest⟩ := List.head?_eq_some_iff.mp hhead
    rw [closeGroup_closing hrest]
    rw [hrest] at hskip
    exact chronicles_of_nil rfl ((List.suffix_cons _ _).trans hskip)
  · obtain ⟨cause, hclose, -⟩ := closeGroup_failed opening inner state hhead
    rw [hclose]
    exact chronicles_of_nil rfl hskip

theorem chronicles_endOfText (inner : Filter) (state : State) :
    Chronicles settings state.unread (endOfText inner state) := by
  have hsuffix : skipBlanks state.unread <:+ state.unread := List.dropWhile_suffix _
  rcases hskip : skipBlanks state.unread with _ | ⟨c, rest⟩
  · rw [endOfText_nil hskip]
    exact chronicles_of_nil rfl List.nil_suffix
  · rw [endOfText_cons hskip]
    exact chronicles_of_nil rfl (hskip ▸ hsuffix)

theorem read_chronicles :
    (∀ part state, Chronicles settings state.unread (read settings part state)) ∧
    ∀ connective left state,
      Chronicles settings state.unread (readOn settings connective left state) := by
  apply read_induction
  case operand =>
    rintro ⟨text, depth⟩ ih
    by_cases hgroup : text.head? = some '('
    · obtain ⟨inside, rfl⟩ := List.head?_eq_some_iff.mp hgroup
      rw [read_group]
      split
      · exact chronicles_of_nil rfl List.suffix_rfl
      · obtain ⟨blanks, hinside, -⟩ := exists_blanks inside
        have htext : '(' :: inside = ('(' :: blanks) ++ skipBlanks inside := by
          rw [List.cons_append, ← hinside]
        have h := (ih inside rfl).andThen fun inner next _ _ =>
          chronicles_closeGroup ('(' :: inside) inner next
        dsimp only at h ⊢
        rw [htext] at h ⊢
        exact h.prepend ('(' :: blanks)
    · rcases leaf_or_fault hgroup with ⟨leaf, rest, derivation⟩ | ⟨fault, hfault⟩
      · rw [read_leaf derivation]
        exact ⟨[leaf], by simp [Reply.log], leavesAlong_leaf derivation⟩
      · rw [read, hfault.operand_eq]
        exact chronicles_of_nil rfl hfault.suffix
  case chain =>
    intro connective state ih ihOn
    rw [read_chain]
    exact ih.andThen ihOn
  case more =>
    intro connective left state ih
    rcases hjoint : afterJoint? connective state.unread with _ | unread
    · rw [readOn_none hjoint]
      exact chronicles_of_nil rfl List.suffix_rfl
    · obtain ⟨ihMember, ihOn⟩ := ih unread hjoint
      obtain ⟨between, htext, -⟩ := (joint_of_afterJoint? hjoint).1.plain
      rw [readOn_some hjoint, htext]
      exact (ihMember.andThen ihOn).prepend between

theorem wholeText_chronicles (settings : Settings) (text : List Char) :
    Chronicles settings text (wholeText settings text) := by
  obtain ⟨blanks, htext, -⟩ := exists_blanks text
  have hread : Chronicles settings (skipBlanks text) (disjunction settings ⟨skipBlanks text, 0⟩) :=
    read_chronicles.1 (.chain .or) _
  have h := (hread.andThen fun inner next _ _ => chronicles_endOfText inner next).prepend blanks
  rwa [← htext] at h

end Chronicles

/-! ## One record for every leaf that is read -/

section Visits

variable {settings : Settings}

/-- The leaf that is read on a visit of the reader of operands, if no group starts there. -/
def Visit.leaf? (settings : Settings) (visit : Visit) : Option Filter :=
  if visit.reader = .operand ∧ visit.state.unread.head? ≠ some '(' then
    match operand settings visit.state with
    | .done leaf _ _ => some leaf
    | .failed _ _ => none
  else
    none

/-- The log tells of the leaves that were read on the visits, each as often as it was read. -/
def Records (settings : Settings) (asked : List Visit) (log : Log) : Prop :=
  log.traces.map Record.leaf? = (asked.filterMap (Visit.leaf? settings)).map some

/-- No visits, and no records of leaves. -/
theorem records_nil {log : Log} (h : log.traces = []) : Records settings [] log := by
  rw [Records, h]
  rfl

theorem Records.append {asked asked' : List Visit} {log log' : Log}
    (h : Records settings asked log) (h' : Records settings asked' log') :
    Records settings (asked ++ asked') (log ++ log') := by
  rw [Records, Log.traces_append, List.map_append, h, h', List.filterMap_append, List.map_append]

/-- A visit on which no leaf is read adds no record. -/
theorem Records.cons {visit : Visit} {asked : List Visit} {log : Log}
    (h : Records settings asked log) (hvisit : visit.leaf? settings = none) :
    Records settings (visit :: asked) log := by
  rwa [Records, List.filterMap_cons_none hvisit]

theorem Records.andThen {α β : Type} {asked : List Visit} {first : Reply α}
    {second : α → State → Reply β} {more : α → State → List Visit}
    (h : Records settings asked first.log)
    (hmore : ∀ value next log, first = .done value next log →
      Records settings (more value next) (second value next).log) :
    Records settings (asked ++ first.visits more) (first.andThen second).log := by
  rcases first with ⟨value, next, log⟩ | ⟨fault, log⟩
  · rw [Reply.done_andThen, Reply.log_after]
    exact h.append (hmore value next log rfl)
  · rwa [Reply.visits, List.append_nil]

theorem log_andThen_of_nil {α β : Type} (first : Reply α) {second : α → State → Reply β}
    (h : ∀ value next, (second value next).log = []) : (first.andThen second).log = first.log := by
  cases first with
  | done value next log => rw [Reply.done_andThen, Reply.log_after, h, List.append_nil, Reply.log]
  | failed fault log => rfl

theorem log_closeGroup (opening : List Char) (inner : Filter) (state : State) :
    (closeGroup opening inner state).log = [] := by
  unfold closeGroup
  split <;> first | rfl | split <;> rfl

theorem log_endOfText (inner : Filter) (state : State) : (endOfText inner state).log = [] := by
  unfold endOfText
  split <;> rfl

theorem log_joinedReply (before : State) (operandText : List Char) (reply : Reply Filter) :
    (joinedReply before operandText reply).log = reply.log := by
  unfold joinedReply
  split
  · rfl
  · split <;> rfl

/-- What the reader records, when it starts in a state. -/
def Reader.log (settings : Settings) : Reader → State → Log
  | disjunction, state => (FilterQuery.disjunction settings state).log
  | moreDisjuncts left, state => (FilterQuery.moreDisjuncts settings left state).log
  | conjunction, state => (FilterQuery.conjunction settings state).log
  | moreConjuncts left, state => (FilterQuery.moreConjuncts settings left state).log
  | joinedOperand, state => (FilterQuery.joinedOperand settings state).log
  | operand, state => (FilterQuery.operand settings state).log
  | group, state => (FilterQuery.group settings state).log

theorem records_visits : ∀ reader start,
    Records settings (visits settings reader start) (reader.log settings start) := by
  intro reader start
  induction reader, start using visits_induction settings with
  | disjunction start ih ihOn =>
    rw [visits_disjunction, Reader.log, disjunction_eq]
    exact (ih.andThen ihOn).cons (if_neg (by simp))
  | moreDisjuncts left start ih =>
    rw [visits_moreDisjuncts, Reader.log, moreDisjuncts_eq]
    refine Records.cons ?_ (if_neg (by simp))
    rcases hword : afterConnective? .or start.unread with _ | unread
    · exact records_nil rfl
    · obtain ⟨ihMember, ihOn⟩ := ih unread hword
      exact ihMember.andThen ihOn
  | conjunction start ih ihOn =>
    rw [visits_conjunction, Reader.log, conjunction_eq]
    exact (ih.andThen ihOn).cons (if_neg (by simp))
  | moreConjuncts left start ih ihJoined =>
    rw [visits_moreConjuncts, Reader.log, moreConjuncts_eq]
    refine Records.cons ?_ (if_neg (by simp))
    rcases hword : afterConnective? .and start.unread with _ | unread
    · obtain ⟨ihMember, ihOn⟩ := ihJoined hword
      refine ihMember.andThen ?_
      rintro (_ | right) next log hreply
      · exact records_nil rfl
      · exact ihOn right next log hreply
    · obtain ⟨ihMember, ihOn⟩ := ih unread hword
      exact ihMember.andThen ihOn
  | joinedOperand start ih =>
    rw [visits_joinedOperand, Reader.log, joinedOperand_eq]
    refine Records.cons ?_ (if_neg (by simp))
    split
    · exact records_nil rfl
    · next hnot =>
      rw [not_or] at hnot
      rw [log_joinedReply]
      exact ih (Nat.lt_of_le_of_ne (length_skipBlanks_le start.unread) hnot.1)
  | operand start ih =>
    obtain ⟨text, depth⟩ := start
    rw [visits_operand, Reader.log]
    by_cases hgroup : text.head? = some '('
    · obtain ⟨inside, rfl⟩ := List.head?_eq_some_iff.mp hgroup
      rw [if_pos hgroup, operand_eq]
      exact ih.cons (if_neg (by simp))
    · rw [if_neg hgroup]
      rcases leaf_or_fault hgroup with ⟨leaf, rest, derivation⟩ | ⟨fault, hfault⟩
      · have hread : operand settings ⟨text, depth⟩ = _ := read_leaf derivation depth
        have hleaf : Visit.leaf? settings ⟨.operand, ⟨text, depth⟩⟩ = some leaf := by
          rw [Visit.leaf?, if_pos ⟨rfl, hgroup⟩, hread]
        rw [Records, hread, Reply.log, Filter.traces_readLog, leaves_of_derives derivation,
          List.filterMap_cons_some hleaf]
        rfl
      · have hleaf : Visit.leaf? settings ⟨.operand, ⟨text, depth⟩⟩ = none := by
          rw [Visit.leaf?, if_pos ⟨rfl, hgroup⟩, hfault.operand_eq]
        rw [hfault.operand_eq]
        exact (records_nil rfl).cons hleaf
  | group start ih =>
    rw [visits_group, Reader.log, group_eq]
    refine Records.cons ?_ (if_neg (by simp))
    rcases hunread : start.unread with _ | ⟨c, inside⟩
    · exact records_nil rfl
    · dsimp only
      split
      · exact records_nil rfl
      · rw [log_andThen_of_nil _ fun inner next => log_closeGroup (c :: inside) inner next]
        exact ih c inside hunread

theorem wholeText_records (settings : Settings) (text : List Char) :
    Records settings (visits settings .disjunction ⟨skipBlanks text, 0⟩)
      (wholeText settings text).log := by
  rw [wholeText, log_andThen_of_nil _ log_endOfText]
  exact records_visits .disjunction _

end Visits

/-! ## With and without reports -/

/-- The reply without the reports of misspelled keys. -/
def Reply.withoutHints : Reply Filter → Reply Filter
  | done filter next log => done filter next log.withoutHints
  | failed fault log => failed fault log.withoutHints

section WithoutHints

theorem Reply.withoutHints_after (earlier : Log) (reply : Reply Filter) :
    (reply.after earlier).withoutHints = reply.withoutHints.after earlier.withoutHints := by
  cases reply <;> simp [after, withoutHints]

theorem Reply.withoutHints_andThen {first first' : Reply Filter}
    {second second' : Filter → State → Reply Filter} (h : first'.withoutHints = first.withoutHints)
    (hsecond : ∀ filter next log, first = .done filter next log →
      (second' filter next).withoutHints = (second filter next).withoutHints) :
    (first'.andThen second').withoutHints = (first.andThen second).withoutHints := by
  rcases first with ⟨filter, next, log⟩ | ⟨fault, log⟩ <;>
    rcases first' with ⟨filter', next', log'⟩ | ⟨fault', log'⟩
  · injection h with hfilter hnext hlog
    subst hfilter hnext
    rw [done_andThen, done_andThen, withoutHints_after, withoutHints_after, hlog,
      hsecond _ _ log rfl]
  · cases h
  · cases h
  · exact h

variable {settings : Settings}

/-- The readers do the same whether misspelled keys are reported or not, except for the reports. -/
theorem read_withoutHints (on : Bool) :
    (∀ part state, (read { settings with suggestKeys := on } part state).withoutHints =
      (read settings part state).withoutHints) ∧
    ∀ connective left state,
      (readOn { settings with suggestKeys := on } connective left state).withoutHints =
        (readOn settings connective left state).withoutHints := by
  apply read_induction
  case operand =>
    rintro ⟨text, depth⟩ ih
    by_cases hgroup : text.head? = some '('
    · obtain ⟨inside, rfl⟩ := List.head?_eq_some_iff.mp hgroup
      rw [read_group, read_group]
      split
      · rfl
      · exact Reply.withoutHints_andThen (ih inside rfl) fun _ _ _ _ => rfl
    · rcases leaf_or_fault hgroup with ⟨leaf, rest, derivation⟩ | ⟨fault, hfault⟩
      · rw [read_leaf derivation, read_leaf derivation, Reply.withoutHints, Reply.withoutHints,
          leaf.withoutHints_readLog]
      · rw [read, hfault.operand_eq, read, hfault.operand_eq]
  case chain =>
    intro connective state ih ihOn
    rw [read_chain, read_chain]
    exact Reply.withoutHints_andThen ih ihOn
  case more =>
    intro connective left state ih
    rcases hjoint : afterJoint? connective state.unread with _ | unread
    · rw [readOn_none hjoint, readOn_none hjoint]
    · obtain ⟨ihMember, ihOn⟩ := ih unread hjoint
      rw [readOn_some hjoint, readOn_some hjoint]
      exact Reply.withoutHints_andThen ihMember ihOn

theorem wholeText_withoutHints (on : Bool) (text : List Char) :
    (wholeText { settings with suggestKeys := on } text).withoutHints =
      (wholeText settings text).withoutHints :=
  Reply.withoutHints_andThen ((read_withoutHints on).1 (.chain .or) _) fun _ _ _ _ => rfl

end WithoutHints

/-! ## Whole texts -/

/-- What the log of reading `input` under the settings tells about the outcome. -/
structure LogTells (settings : Settings) (input : String) : Prop where
  /-- The leaves of a filter are recorded from left to right, each of them once. The keys that look
  misspelled are reported in the order of the walk along the keys, if they are to be reported. -/
  filter : ∀ filter, (settings.parse input).result = .ok filter →
    (Log.traces (settings.parse input).log).map Record.leaf? = filter.leaves.map some ∧
    Log.hints (settings.parse input).log =
      (if settings.suggestKeys then filter.keyWalk.toList.filterMap Key.hint? else []) ∧
    ∀ record ∈ (settings.parse input).log, record.isFailure = false
  /-- What is recorded before an error are leaves that stand in front of it, one behind the other.
  The error is recorded at last, and only there. -/
  error : ∀ error, (settings.parse input).result = .error error →
    ∃ earlier leaves front rest, (settings.parse input).log = earlier ++ [.failure input error] ∧
      (∀ record ∈ earlier, record.isFailure = false) ∧
      (Log.traces earlier).map Record.leaf? = leaves.map some ∧
      input.toList = front ++ rest ∧ error.position = byteLength front ∧
      LeavesAlong leaves input.toList rest
  /-- There is one record for every leaf that is read, in the order in which they are read, also of
  a text that fails. -/
  visits : Records settings (settings.visits input) (settings.parse input).log
  /-- The reports stand where they belong. -/
  hints : HintsInPlace settings (settings.parse input).log
  /-- Whether keys are reported makes no other difference. -/
  switch : ∀ on, (Settings.parse { settings with suggestKeys := on } input).result =
      (settings.parse input).result ∧
    Log.withoutHints (Settings.parse { settings with suggestKeys := on } input).log =
      Log.withoutHints (settings.parse input).log

section Parse

variable {settings : Settings}

theorem Outcome.records_ofReply {input : String} {reply : Reply Filter} {asked : List Visit}
    (h : Records settings asked reply.log) : Records settings asked (ofReply input reply).log := by
  cases reply with
  | done filter next log => exact h
  | failed fault log =>
    have hfailure : Records settings [] [.failure input (fault.errorIn input.toList)] :=
      records_nil rfl
    rw [← List.append_nil asked]
    exact h.append hfailure

theorem parse_records {input : String}
    (hlength : ∀ limit, settings.maxLength = some limit → input.utf8ByteSize ≤ limit) :
    Records settings (settings.visits input) (settings.parse input).log := by
  rw [Settings.visits, exceededLimit_of_fits hlength, parse_of_fits hlength]
  exact Outcome.records_ofReply (wholeText_records settings input.toList)

theorem Outcome.ofReply_withoutHints {input : String} {reply reply' : Reply Filter}
    (h : reply'.withoutHints = reply.withoutHints) :
    (ofReply input reply').result = (ofReply input reply).result ∧
      Log.withoutHints (ofReply input reply').log = Log.withoutHints (ofReply input reply).log := by
  rcases reply with ⟨filter, next, log⟩ | ⟨fault, log⟩ <;>
    rcases reply' with ⟨filter', next', log'⟩ | ⟨fault', log'⟩
  · injection h with hfilter _ hlog
    exact ⟨congrArg Except.ok hfilter, hlog⟩
  · cases h
  · cases h
  · injection h with hfault hlog
    subst hfault
    refine ⟨rfl, ?_⟩
    rw [ofReply, ofReply, Log.withoutHints_append, Log.withoutHints_append, hlog]

theorem parse_withoutHints (on : Bool) (input : String) :
    (Settings.parse { settings with suggestKeys := on } input).result =
        (settings.parse input).result ∧
      Log.withoutHints (Settings.parse { settings with suggestKeys := on } input).log =
        Log.withoutHints (settings.parse input).log := by
  have hlimit : Settings.exceededLimit { settings with suggestKeys := on }
      (byteLength input.toList) = settings.exceededLimit (byteLength input.toList) := rfl
  rw [Settings.parse, hlimit, Settings.parse]
  cases settings.exceededLimit (byteLength input.toList) with
  | some limit => exact ⟨rfl, rfl⟩
  | none => exact Outcome.ofReply_withoutHints (wholeText_withoutHints on input.toList)

/-- The log of a text that is not too long tells what was read, in the order in which it was read,
whether the text is a filter or not. -/
theorem parse_logTells (settings : Settings) (input : String)
    (hlength : ∀ limit, settings.maxLength = some limit → input.utf8ByteSize ≤ limit) :
    LogTells settings input := by
  have hparse := parse_of_fits hlength
  rcases hwhole : wholeText settings input.toList with ⟨filter, next, log⟩ | ⟨fault, log⟩
  · obtain ⟨n, hn, hdenotes⟩ := denotes_of_wholeText hwhole
    rw [wholeText_eq_done hdenotes hn] at hparse
    constructor
    · intro found hfound
      rw [hparse] at hfound ⊢
      obtain rfl := Except.ok.inj hfound
      refine ⟨filter.traces_readLog settings, ?_, filter.isFailure_readLog settings⟩
      rw [Filter.toList_keyWalk]
      exact Filter.hints_readLog settings filter
    · intro error herror
      rw [hparse] at herror
      cases herror
    · exact parse_records hlength
    · rw [hparse]
      exact hintsInPlace_readLog filter
    · exact fun on => parse_withoutHints on input
  · obtain ⟨leaves, hlog, hleaves⟩ := wholeText_chronicles settings input.toList
    obtain ⟨front, depth, htext, -⟩ := wholeText_justified hwhole
    rw [hwhole] at hparse hlog hleaves
    obtain rfl : log = _ := hlog
    constructor
    · intro filter hfilter
      rw [hparse] at hfilter
      cases hfilter
    · intro error herror
      rw [hparse] at herror ⊢
      obtain rfl := Except.error.inj herror
      refine ⟨_, leaves, front, fault.unread, rfl, ?_, hleaves.traces_log settings, htext, ?_,
        hleaves⟩
      · intro record hrecord
        obtain ⟨leaf, -, hleaf⟩ := List.mem_flatMap.mp hrecord
        exact leaf.isFailure_readLog settings record hleaf
      · rw [Fault.errorIn, Cause.position_errorAt, htext, offset_append]
    · exact parse_records hlength
    · rw [hparse]
      refine (hintsInPlace_flatMap leaves).append (hintsInPlace_singleton rfl ?_)
      intro hon key value hpair
      cases hpair
    · exact fun on => parse_withoutHints on input

/-- A misspelled key in a group, behind a tag and in front of an error. -/
theorem parse_logTells_misspelled :
    let settings : Settings := ⟨1, some 20, true⟩
    let input := "+é (proyect:x or )"
    (∀ limit, settings.maxLength = some limit → input.utf8ByteSize ≤ limit) ∧
      (∃ error, (settings.parse input).log =
        [.tag .includes "é", .misspelling "proyect" "project",
          .pair (.userDefined "proyect") "x", .failure input error]) ∧
      LogTells settings input := by
  intro settings input
  have hlength : ∀ limit, settings.maxLength = some limit → input.utf8ByteSize ≤ limit := by
    rintro limit ⟨⟩
    decide
  let fault : Fault := ⟨.noOperand (some ')'), [')']⟩
  have hwhole : wholeText settings input.toList =
      .failed fault [.tag .includes "é", .misspelling "proyect" "project",
        .pair (.userDefined "proyect") "x"] := by
    decide +kernel
  refine ⟨hlength, ⟨fault.errorIn input.toList, ?_⟩, parse_logTells settings input hlength⟩
  rw [parse_of_fits hlength, hwhole]
  rfl

end Parse

end FilterQuery
