import FilterQuery.Proofs.Faults
import FilterQuery.Proofs.Following

/-!
# The text in front of an error can be completed

What stands in front of the place of an error was never wrong: with a filler in place of the rest,
and with the open groups closed, it is a filter.

* `ErrorKind.filler`, `mend`: what is put in place of the text from an error on.
* `Leads`: a stretch of text along which the number of open groups changes.
* `PartMended`, `ChainMended`: that a part, or a chain behind some of its members, can be completed.
  There is one lemma for each way in which the place of the fault can lie in it.
* `read_mended`: where a reader fails, the part that it reads can be completed.
* `parse_completed`: the mended text of an error is parsed as a filter.
-/

namespace FilterQuery

open Text

/-! ## Mending -/

/-- What makes up for what is missing at the place of an error. The last two kinds are never
reported for a place in a text. -/
def ErrorKind.filler : ErrorKind → List Char
  | .unmatchedParenthesis | .trailingInput => []
  | .missingSeparator => [':', 'x']
  | .emptyValue | .emptyTagName | .unterminatedQuote => ['x']
  | .unrecognizedOperand | .nestingTooDeep => ['+', 'x']
  | .invalidKey | .inputTooLong => []

/-- What is put in place of the text from an error on: the filler, and then the ends of the groups
that are open, with `rest` behind them. -/
def mend (kind : ErrorKind) (opened : Nat) (rest : List Char) : List Char :=
  kind.filler ++ (List.replicate opened ')' ++ rest)

theorem mend_succ (kind : ErrorKind) (opened : Nat) (rest : List Char) :
    mend kind (opened + 1) rest = mend kind opened (')' :: rest) := by
  rw [mend, mend, List.replicate_succ']
  simp

theorem run_filler {p : Char → Bool} (h : p 'x' = true) : Run p ['x'] :=
  ⟨List.cons_ne_nil _ _, by simpa using h⟩

theorem isTagChar_filler : isTagChar 'x' = true := by
  decide +kernel

theorem valueAt_filler {rest : List Char} (hrest : Stops isValueChar rest) :
    ValueAt "x" ('x' :: rest) rest :=
  .bare (run_filler (isValueChar_of_isTagChar isTagChar_filler)) hrest

/-- A tag makes up for an operand. -/
theorem derives_filler (polarity : Polarity) {rest : List Char} (hrest : Stops isValueChar rest) :
    Derives .operand 0 (.tag polarity "x") (polarity.sign :: 'x' :: rest) rest :=
  have hname : Run isTagChar ['x'] := run_filler isTagChar_filler
  .tag hname (hrest.mono fun _ => isValueChar_of_isTagChar)

/-! ## Stretches of text -/

/-- Behind the text `depth'` groups are open wherever `depth` groups are open in front of it. -/
def Leads (limit depth : Nat) (text : List Char) (depth' : Nat) : Prop :=
  ∀ before, Reached limit depth before → Reached limit depth' (before ++ text)

section Leads

variable {limit depth depth' depth'' : Nat} {text text' : List Char}

theorem Leads.append (h : Leads limit depth text depth') (h' : Leads limit depth' text' depth'') :
    Leads limit depth (text ++ text') depth'' := by
  intro before hbefore
  rw [← List.append_assoc]
  exact h' _ (h before hbefore)

theorem leads_plain (h : ∀ c ∈ text, Plain c) : Leads limit depth text depth :=
  fun _ hbefore => hbefore.plain h

theorem leads_enter (h : depth < limit) (htext : ∀ c ∈ text, Plain c) :
    Leads limit depth ('(' :: text) (depth + 1) := by
  have hopened : Leads limit depth ['('] (depth + 1) := fun _ hbefore => hbefore.enter h
  exact hopened.append (leads_plain htext)

/-- What a derivation takes up closes the groups that it opens. -/
theorem Derives.leads {part : Part} {n : Nat} {filter : Filter} {rest : List Char}
    (h : Derives part n filter (text ++ rest) rest) (hn : n ≤ limit - depth) :
    Leads limit depth text depth := by
  intro before hbefore
  obtain ⟨consumed, htext, hreached⟩ := hbefore.derives h hn
  obtain rfl := List.append_cancel_right htext
  exact hreached

end Leads

/-! ## Completing parts -/

/-- The fault is `consumed` behind the start of the state's text, with `opened` more groups open. -/
structure FaultAt (limit : Nat) (state : State) (fault : Fault) (consumed : List Char)
    (opened : Nat) : Prop where
  unread : state.unread = consumed ++ fault.unread
  leads : Leads limit state.depth consumed (state.depth + opened)

/-- The mended text from the state on derives as the part, whatever follows it. It may stand where
the text of the state stands. -/
structure MendsPart (limit : Nat) (part : Part) (state : State) (mended rest : List Char) :
    Prop where
  replaces : Replaces state.unread mended
  derives : ∃ n filter, n ≤ limit - state.depth ∧ Derives part n filter mended rest

/-- A part in which reading fails can be completed. -/
def PartMended (limit : Nat) (part : Part) (state : State) (fault : Fault) : Prop :=
  ∃ consumed opened, FaultAt limit state fault consumed opened ∧
    ∀ rest, Stops isValueChar rest →
      MendsPart limit part state (consumed ++ mend fault.cause.kind opened rest) rest

/-- A chain in which reading fails behind `left` can be completed. -/
def ChainMended (limit : Nat) (connective : Connective) (left : Filter) (state : State)
    (fault : Fault) : Prop :=
  ∃ consumed opened, FaultAt limit state fault consumed opened ∧
    ∀ {m before}, m ≤ limit - state.depth →
      Derives (.chain connective) m left (before ++ state.unread) state.unread →
      ∀ rest, Stops isValueChar rest → ∃ n filter, n ≤ limit - state.depth ∧
        Derives (.chain connective) n filter
          (before ++ (consumed ++ mend fault.cause.kind opened rest)) rest

section Mended

variable {settings : Settings} {limit depth : Nat}

/-- Within a leaf it is enough to complete that leaf. -/
theorem partMended_leaf {consumed unread : List Char} {cause : Cause} (hne : consumed ≠ [])
    (hplain : ∀ c ∈ consumed, Plain c)
    (hleaf : ∀ rest, Stops isValueChar rest →
      ∃ filter, Derives .operand 0 filter (consumed ++ (cause.kind.filler ++ rest)) rest) :
    PartMended limit .operand ⟨consumed ++ unread, depth⟩ ⟨cause, unread⟩ := by
  refine ⟨consumed, 0, ⟨rfl, leads_plain hplain⟩,
    fun rest hrest => ⟨replaces_of_ne_nil hne _ _, ?_⟩⟩
  obtain ⟨filter, derivation⟩ := hleaf rest hrest
  exact ⟨0, filter, Nat.zero_le _, derivation⟩

/-- A missing operand is made up for by a tag. -/
theorem partMended_operand {unread : List Char} {cause : Cause}
    (hfiller : cause.kind.filler = ['+', 'x']) :
    PartMended limit .operand ⟨unread, depth⟩ ⟨cause, unread⟩ := by
  refine ⟨[], 0, ⟨rfl, leads_plain (by simp)⟩,
    fun rest hrest => ⟨replaces_of_stops ?_, 0, .tag .includes "x", Nat.zero_le _, ?_⟩⟩ <;>
    rw [List.nil_append, mend, hfiller]
  · exact stops_cons.mpr (by decide +kernel)
  · exact derives_filler .includes hrest

/-- A missing or broken value is made up for by another one. -/
theorem Run.valueMended {name unread : List Char} {cause : Cause} (h : Run isKeyChar name)
    (hfiller : cause.kind.filler = ['x']) :
    PartMended limit .operand ⟨name ++ ':' :: unread, depth⟩ ⟨cause, unread⟩ := by
  have hplain : ∀ c ∈ name ++ [':'], Plain c := fun c hc =>
    plain_of_isValueChar (h.isValueChar_separator c hc)
  rw [List.append_cons]
  refine partMended_leaf (by simp) hplain fun rest hrest => ?_
  rw [hfiller, ← List.append_cons]
  exact ⟨_, .pair h (valueAt_filler hrest)⟩

/-- A fault outside of groups is made up for by a leaf. -/
theorem LeafFault.mended {text : List Char} {fault : Fault}
    (h : LeafFault text fault) : PartMended limit .operand ⟨text, depth⟩ fault := by
  cases h with
  | nothing => exact partMended_operand rfl
  | other rest hgroup hsign hkey => exact partMended_operand rfl
  | noTagName polarity hrest =>
    have hplain : ∀ c ∈ [polarity.sign], Plain c := by simpa using plain_sign polarity
    exact partMended_leaf (List.cons_ne_nil _ _) hplain
      fun _ hrest => ⟨_, derives_filler polarity hrest⟩
  | noSeparator hname hrest =>
    exact partMended_leaf hname.ne_nil hname.plain
      fun _ hrest => ⟨_, .pair hname (valueAt_filler hrest)⟩
  | noValue hname hquote hrest => exact hname.valueMended rfl
  | openQuote hname hbody => exact hname.valueMended rfl

/-- The state's text is a disjunction `body`, then blanks, then `rest`. -/
structure EndsBefore (limit : Nat) (state : State) (filter : Filter)
    (body blanks rest : List Char) : Prop where
  unread : state.unread = body ++ (blanks ++ rest)
  plain : Blanks blanks
  derives : ∃ n, n ≤ limit - state.depth ∧ ∀ rest', Stops isValueChar rest' →
    Derives (.chain .or) n filter (body ++ (blanks ++ rest')) (blanks ++ rest')
  ne_nil : body ≠ []

theorem endsBefore_of_read {state next : State} {filter : Filter} {log : Log}
    (h : read settings (.chain .or) state = .done filter next log) :
    ∃ body blanks,
      EndsBefore settings.maxDepth state filter body blanks (skipBlanks next.unread) := by
  obtain ⟨-, n, hn, derivation⟩ := read_sound.1 (.chain .or) state h
  obtain ⟨body, htext, hne, hbody⟩ := derivation.followed
  obtain ⟨blanks, hunread, hblanks⟩ := exists_blanks next.unread
  refine ⟨body, blanks, by rw [← hunread, htext], hblanks, ⟨n, hn, fun rest' hrest' => ?_⟩, hne⟩
  rw [hunread] at hbody
  exact hbody ((replaces_of_stops hrest').append blanks)

theorem EndsBefore.leads {state : State} {filter : Filter} {body blanks rest : List Char}
    (h : EndsBefore limit state filter body blanks rest) :
    Leads limit state.depth (body ++ blanks) state.depth := by
  obtain ⟨n, hn, derivation⟩ := h.derives
  exact ((derivation [] (stops_nil _)).leads hn).append (leads_plain h.plain.plain)

theorem stops_closing (rest : List Char) : Stops isValueChar (')' :: rest) :=
  stops_cons.mpr (by decide +kernel)

section Group

variable {inside : List Char} {fault : Fault}

/-- A group is completed by what completes the disjunction in it. -/
theorem PartMended.group (hdepth : depth < limit)
    (h : PartMended limit (.chain .or) ⟨skipBlanks inside, depth + 1⟩ fault) :
    PartMended limit .operand ⟨'(' :: inside, depth⟩ fault := by
  obtain ⟨before, hinside, hbefore⟩ := exists_blanks inside
  obtain ⟨consumed, opened, hplace, hmends⟩ := h
  have hleads := (leads_enter hdepth hbefore.plain).append hplace.leads
  rw [Nat.add_right_comm, Nat.add_assoc] at hleads
  refine ⟨_, opened + 1, ⟨?_, hleads⟩, fun rest hrest => ⟨replaces_of_head? rfl, ?_⟩⟩
  · rw [List.append_assoc, ← hplace.unread]
    exact congrArg (List.cons '(') hinside
  · obtain ⟨n, filter, hn, derivation⟩ := (hmends _ (stops_closing rest)).derives
    dsimp only at hn ⊢
    rw [List.append_assoc, mend_succ]
    exact ⟨n + 1, filter, by omega, .group hbefore derivation blanks_nil⟩

/-- A group whose disjunction is complete only has to be closed. -/
theorem EndsBefore.group {inner : Filter} {body blanks : List Char} (hdepth : depth < limit)
    (h : EndsBefore limit ⟨skipBlanks inside, depth + 1⟩ inner body blanks fault.unread)
    (hfiller : fault.cause.kind.filler = []) :
    PartMended limit .operand ⟨'(' :: inside, depth⟩ fault := by
  obtain ⟨before, hinside, hbefore⟩ := exists_blanks inside
  refine ⟨_, 1, ⟨?_, (leads_enter hdepth hbefore.plain).append h.leads⟩,
    fun rest hrest => ⟨replaces_of_head? rfl, ?_⟩⟩
  · have htext := h.unread
    dsimp only at htext
    rw [List.append_assoc, List.append_assoc, ← htext]
    exact congrArg (List.cons '(') hinside
  · obtain ⟨n, hn, derivation⟩ := h.derives
    dsimp only at hn ⊢
    have hmend : mend fault.cause.kind 1 rest = ')' :: rest := by
      rw [mend, hfiller]
      rfl
    rw [hmend, List.append_assoc, List.append_assoc]
    exact ⟨n + 1, inner, by omega, .group hbefore (derivation _ (stops_closing rest)) h.plain⟩

/-- Where reading fails in a group, that group can be completed if the disjunction in it can. -/
theorem group_mended {log : Log}
    (h : read settings .operand ⟨'(' :: inside, depth⟩ = .failed fault log)
    (hinner : ∀ {fault log},
      read settings (.chain .or) ⟨skipBlanks inside, depth + 1⟩ = .failed fault log →
      PartMended settings.maxDepth (.chain .or) ⟨skipBlanks inside, depth + 1⟩ fault) :
    PartMended settings.maxDepth .operand ⟨'(' :: inside, depth⟩ fault := by
  rw [read_group] at h
  split at h
  · cases h
    exact partMended_operand rfl
  · next hdepth =>
    replace hdepth := Nat.lt_of_not_le hdepth
    rcases Reply.andThen_eq_failed_iff.mp h with
      hfailed | ⟨inner, next, earlier, own, hdone, hclose, -⟩
    · exact (hinner hfailed).group hdepth
    · obtain ⟨body, blanks, hends⟩ := endsBefore_of_read hdone
      obtain ⟨hunread, -, hkind⟩ := closeGroup_eq_failed hclose
      refine EndsBefore.group hdepth (hunread ▸ hends) ?_
      rcases hkind with ⟨hkind, -⟩ | ⟨hkind, -⟩ <;> rw [hkind] <;> rfl

end Group

/-! ## Completing chains -/

section Chain

variable {connective : Connective} {left right : Filter} {between first unread : List Char}
  {n : Nat} {fault : Fault}

/-- A chain is completed by what completes its first member. -/
theorem PartMended.chain {state : State} (h : PartMended limit connective.member state fault) :
    PartMended limit (.chain connective) state fault := by
  obtain ⟨consumed, opened, hplace, hmends⟩ := h
  refine ⟨consumed, opened, hplace, fun rest hrest => ⟨(hmends rest hrest).replaces, ?_⟩⟩
  obtain ⟨n, filter, hn, derivation⟩ := (hmends rest hrest).derives
  exact ⟨n, filter, hn, .single derivation⟩

/-- A chain is completed by what completes it behind its first member. -/
theorem ChainMended.chain
    (derivation : Derives connective.member n left (first ++ unread) unread)
    (hn : n ≤ limit - depth)
    (h : ChainMended limit connective left ⟨unread, depth⟩ fault) :
    PartMended limit (.chain connective) ⟨first ++ unread, depth⟩ fault := by
  obtain ⟨consumed, opened, ⟨rfl, hleads⟩, hmends⟩ := h
  have hne : first ≠ [] := by
    obtain ⟨first', htext, hne, -⟩ := derivation.followed
    rwa [List.append_cancel_right htext]
  refine ⟨first ++ consumed, opened, ⟨by simp, (derivation.leads hn).append hleads⟩,
    fun rest hrest => ⟨?_, ?_⟩⟩ <;> rw [List.append_assoc]
  · exact replaces_of_ne_nil hne _ _
  · exact hmends hn (.single derivation) rest hrest

/-- Behind further members, a chain is completed by what completes the next one. -/
theorem PartMended.joined (joint : Joint connective (between ++ unread) unread)
    (hbetween : Leads limit depth between depth)
    (h : PartMended limit connective.member ⟨unread, depth⟩ fault) :
    ChainMended limit connective left ⟨between ++ unread, depth⟩ fault := by
  obtain ⟨consumed, opened, ⟨rfl, hleads⟩, hmends⟩ := h
  refine ⟨between ++ consumed, opened, ⟨by simp, hbetween.append hleads⟩,
    fun {m before} hm hleft rest hrest => ?_⟩
  obtain ⟨hreplaces, n, filter, hn, derivation⟩ := hmends rest hrest
  refine ⟨max m n, .binary left connective filter, Nat.max_le.mpr ⟨hm, hn⟩, ?_⟩
  rw [List.append_assoc]
  exact (hleft.replace (hreplaces.append between)).joined (joint.replace hreplaces) derivation

/-- Behind further members, a chain is completed by what completes it behind one more. -/
theorem ChainMended.joined
    (joint : Joint connective (between ++ (first ++ unread)) (first ++ unread))
    (hbetween : Leads limit depth between depth)
    (derivation : Derives connective.member n right (first ++ unread) unread)
    (hn : n ≤ limit - depth)
    (h : ChainMended limit connective (.binary left connective right) ⟨unread, depth⟩ fault) :
    ChainMended limit connective left ⟨between ++ (first ++ unread), depth⟩ fault := by
  obtain ⟨consumed, opened, ⟨rfl, hleads⟩, hmends⟩ := h
  refine ⟨between ++ (first ++ consumed), opened,
    ⟨by simp, hbetween.append ((derivation.leads hn).append hleads)⟩,
    fun {m before} hm hleft rest hrest => ?_⟩
  have hlonger := hleft.joined joint derivation
  dsimp only at hlonger
  rw [← List.append_assoc between, ← List.append_assoc before] at hlonger
  simpa using hmends (Nat.max_le.mpr ⟨hm, hn⟩) hlonger rest hrest

end Chain

/-- Where a reader fails, the part that it reads can be completed. -/
theorem read_mended :
    (∀ part state, ∀ {fault log}, read settings part state = .failed fault log →
      PartMended settings.maxDepth part state fault) ∧
    ∀ connective left state, ∀ {fault log},
      readOn settings connective left state = .failed fault log →
      ChainMended settings.maxDepth connective left state fault := by
  apply read_induction
  case operand =>
    rintro ⟨text, depth⟩ ih fault log h
    by_cases hgroup : text.head? = some '('
    · obtain ⟨inside, rfl⟩ := List.head?_eq_some_iff.mp hgroup
      exact group_mended h (ih inside rfl)
    · exact (leafFault_of_operand hgroup h).mended
  case chain =>
    rintro connective ⟨text, depth⟩ ih ihOn fault log h
    rw [read_chain] at h
    rcases Reply.andThen_eq_failed_iff.mp h with
      hfailed | ⟨left, ⟨unread, depth'⟩, earlier, own, hleft, hmore, -⟩
    · exact (ih hfailed).chain
    · obtain ⟨rfl, n, hn, derivation⟩ := read_sound.1 _ _ hleft
      obtain ⟨first, rfl, -⟩ := derivation.followed
      exact (ihOn left _ earlier hleft hmore).chain derivation hn
  case more =>
    rintro connective left ⟨text, depth⟩ ih fault log h
    rcases hjoint : afterJoint? connective text with _ | unread
    · rw [readOn_none hjoint] at h
      cases h
    · rw [readOn_some hjoint] at h
      obtain ⟨ihMember, ihOn⟩ := ih unread hjoint
      obtain ⟨joint, -⟩ := joint_of_afterJoint? hjoint
      obtain ⟨between, rfl, hplain⟩ := joint.plain
      have hbetween : Leads settings.maxDepth depth between depth := leads_plain hplain
      rcases Reply.andThen_eq_failed_iff.mp h with
        hfailed | ⟨right, ⟨unread', depth'⟩, earlier, own, hright, hmore, -⟩
      · exact (ihMember hfailed).joined joint hbetween
      · obtain ⟨rfl, n, hn, derivation⟩ := read_sound.1 _ _ hright
        obtain ⟨first, rfl, -⟩ := derivation.followed
        exact (ihOn right _ earlier hright hmore).joined joint hbetween derivation hn

end Mended

/-! ## Completing texts -/

/-- The text in front of the fault, mended, is written for a filter. -/
def TextMended (limit : Nat) (text : List Char) (fault : Fault) : Prop :=
  ∃ before, text = before ++ fault.unread ∧ ∃ n filter, n ≤ limit ∧
    Denotes n filter (before ++ mend fault.cause.kind (groupsOf before).opened [])

section WholeText

variable {limit : Nat} {text : List Char} {fault : Fault}

theorem PartMended.wholeText (h : PartMended limit (.chain .or) ⟨skipBlanks text, 0⟩ fault) :
    TextMended limit text fault := by
  obtain ⟨blanks, htext, hblanks⟩ := exists_blanks text
  have hstart : Leads limit 0 blanks 0 := leads_plain hblanks.plain
  obtain ⟨consumed, opened, hplace, hmends⟩ := h
  have hopened := (hstart.append hplace.leads [] (reached_nil _)).opened
  rw [List.nil_append, Nat.zero_add] at hopened
  obtain ⟨n, filter, hn, derivation⟩ := (hmends [] (stops_nil _)).derives
  refine ⟨blanks ++ consumed, ?_, n, filter, hn, ?_⟩
  · rw [List.append_assoc, ← hplace.unread]
    exact htext
  · have hdenotes := Denotes.intro hblanks derivation blanks_nil
    rwa [hopened, List.append_assoc]

theorem EndsBefore.wholeText {filter : Filter} {body blanks : List Char}
    (h : EndsBefore limit ⟨skipBlanks text, 0⟩ filter body blanks fault.unread)
    (hfiller : fault.cause.kind.filler = []) : TextMended limit text fault := by
  obtain ⟨before, htext, hbefore⟩ := exists_blanks text
  have hstart : Leads limit 0 before 0 := leads_plain hbefore.plain
  have hopened := (hstart.append h.leads [] (reached_nil _)).opened
  rw [List.nil_append] at hopened
  obtain ⟨n, hn, derivation⟩ := h.derives
  refine ⟨before ++ (body ++ blanks), ?_, n, filter, hn, ?_⟩
  · have hbody := h.unread
    dsimp only at hbody
    rw [List.append_assoc, List.append_assoc, ← hbody]
    exact htext
  · have hended := derivation [] (stops_nil _)
    rw [List.append_nil] at hended
    rw [hopened, mend, hfiller, List.replicate_zero, List.append_nil, List.append_nil,
      List.append_nil]
    exact .intro hbefore hended h.plain

theorem wholeText_mended {settings : Settings} {log : Log}
    (h : wholeText settings text = .failed fault log) :
    TextMended settings.maxDepth text fault := by
  rcases Reply.andThen_eq_failed_iff.mp h with hread | ⟨inner, next, earlier, own, hread, hend, -⟩
  · exact (read_mended.1 (.chain .or) _ hread).wholeText
  · obtain ⟨body, blanks, hends⟩ := endsBefore_of_read hread
    obtain ⟨hunread, -, hkind⟩ := endOfText_eq_failed hend
    refine EndsBefore.wholeText (hunread ▸ hends) ?_
    rcases hkind with ⟨hcause, -⟩ | ⟨hkind, -⟩
    · rw [hcause]
      rfl
    · rw [hkind]
      rfl

end WholeText

/-- Whatever stands in front of the place of an error can be completed to a filter: behind a filler
that the kind of the error names, all groups that are open there are closed. -/
theorem parse_completed (limit : Nat) (report : Bool) (input : String) (error : SyntaxError)
    (h : (Settings.parse ⟨limit, none, report⟩ input).result = .error error) :
    ∃ before rest, input.toList = before ++ rest ∧ error.position = byteLength before ∧
      ∃ filter, (Settings.parse ⟨limit, none, report⟩ (String.ofList (before ++
        (error.kind.filler ++ List.replicate (groupsOf before).opened ')')))).result
          = .ok filter := by
  obtain ⟨fault, log, hwhole, rfl⟩ := exists_fault_of_fits (by nofun) h
  obtain ⟨before, htext, n, filter, hn, hdenotes⟩ := wholeText_mended hwhole
  refine ⟨before, fault.unread, htext, htext ▸ fault.position_errorIn before, filter, ?_⟩
  · apply parse_of_denotes (by nofun) hn
    rw [String.toList_ofList]
    rwa [mend, List.append_nil] at hdenotes

/-- Behind a quoted parenthesis, a key without its separator in two open groups. -/
theorem parse_completed_openGroups :
    let error : SyntaxError := ⟨.missingSeparator, 17, "expected ':' after key 'c'"⟩
    (Settings.parse ⟨2, none, true⟩ "é:'(' (b:2 or (c d)").result = .error error ∧
      ∃ before rest, "é:'(' (b:2 or (c d)".toList = before ++ rest ∧
        error.position = byteLength before ∧
        ∃ filter, (Settings.parse ⟨2, none, true⟩ (String.ofList (before ++
          (error.kind.filler ++ List.replicate (groupsOf before).opened ')')))).result
            = .ok filter := by
  intro error
  have hresult : (Settings.parse ⟨2, none, true⟩ "é:'(' (b:2 or (c d)").result = .error error := by
    have hwhole : wholeText ⟨2, none, true⟩ "é:'(' (b:2 or (c d)".toList =
        .failed ⟨.noSeparator "c", [' ', 'd', ')']⟩
          [.pair (.userDefined "é") "(", .pair (.userDefined "b") "2"] := by
      decide +kernel
    have herror : Fault.errorIn ⟨.noSeparator "c", [' ', 'd', ')']⟩ "é:'(' (b:2 or (c d)".toList =
        error := by
      decide +kernel
    rw [parse_of_fits (by nofun), hwhole, ← herror]
    rfl
  exact ⟨hresult, parse_completed 2 true _ error hresult⟩

example : mend .missingSeparator 2 [] = ":x))".toList := by
  rfl

end FilterQuery
