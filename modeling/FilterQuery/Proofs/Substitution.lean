import FilterQuery.Proofs.Grouping
import Mathlib.Logic.Relation

/-!
# Putting one filter in place of a part of another

Where a text is read as a filter, every operand that is read on the way gives one part of that
filter. Any other text of a filter may stand in its place, in parentheses: this changes that part
and nothing else.

* `Filter.Context`: a filter with a place that is left open.
* `Call`, `Calls`: the readers with what they read, and which other readers they call.
  `ReadsOperand` says that reading a text calls the reader of operands at a place of the text, and
  what this finds there.
* `Hosts`: what one call has found is part of what another one has found, and can be replaced there.
  `Calls.uses` is the lemma for one call, `Passage.uses` follows the calls from a text on.
* `parse_substituted`: so a group can be put in place of any operand.
-/

namespace FilterQuery

open Text

/-! ## Places in filters -/

/-- A filter with a place that is left open. -/
inductive Filter.Context where
  /-- Nothing but the open place. -/
  | hole
  /-- The open place is in the left operand. -/
  | left (context : Context) (connective : Connective) (sibling : Filter)
  /-- The open place is in the right operand. -/
  | right (sibling : Filter) (connective : Connective) (context : Context)

namespace Filter.Context

/-- The filter with the given one at the open place. -/
def fill : Context → Filter → Filter
  | hole, filter => filter
  | left context connective sibling, filter => .binary (context.fill filter) connective sibling
  | right sibling connective context, filter => .binary sibling connective (context.fill filter)

/-- The second context at the open place of the first one. -/
def comp : Context → Context → Context
  | hole, inner => inner
  | left context connective sibling, inner => left (context.comp inner) connective sibling
  | right sibling connective context, inner => right sibling connective (context.comp inner)

theorem fill_comp (outer inner : Context) (filter : Filter) :
    (outer.comp inner).fill filter = outer.fill (inner.fill filter) := by
  induction outer with
  | hole => rfl
  | left context connective sibling ih => exact congrArg (Filter.binary · connective sibling) ih
  | right sibling connective context ih => exact congrArg (Filter.binary sibling connective) ih

end Filter.Context

/-! ## Calls -/

/-- What a reader is asked to read. -/
inductive Demand where
  /-- A part. -/
  | part (part : Part)
  /-- The further members of a chain, behind what `left` was found for. -/
  | more (connective : Connective) (left : Filter)

/-- A call of a reader. -/
structure Call where
  /-- What it is asked to read. -/
  demand : Demand
  /-- Where it starts. -/
  state : State

/-- The reply of the reader that is called. -/
def Call.reply (settings : Settings) : Call → Reply Filter
  | ⟨.part part, state⟩ => read settings part state
  | ⟨.more connective left, state⟩ => readOn settings connective left state

/-- The call by which a whole text is read. -/
def Call.ofText (text : List Char) : Call :=
  ⟨.part (.chain .or), ⟨skipBlanks text, 0⟩⟩

/-- The first reader calls the second one, as the equations `read_group`, `read_chain` and
`readOn_eq` say. No call is left out but those that find no operand behind blanks and are taken
back. -/
inductive Calls (settings : Settings) : Call → Call → Prop
  /-- A group calls for the disjunction in it. -/
  | inside {inside : List Char} {depth : Nat} : depth < settings.maxDepth →
      Calls settings ⟨.part .operand, ⟨'(' :: inside, depth⟩⟩
        ⟨.part (.chain .or), ⟨skipBlanks inside, depth + 1⟩⟩
  /-- A chain calls for its first member. -/
  | first {connective : Connective} {state : State} :
      Calls settings ⟨.part (.chain connective), state⟩ ⟨.part connective.member, state⟩
  /-- Behind its first member, a chain calls for the further ones. -/
  | further {connective : Connective} {state next : State} {left : Filter} {log : Log} :
      read settings connective.member state = .done left next log →
      Calls settings ⟨.part (.chain connective), state⟩ ⟨.more connective left, next⟩
  /-- If something is joined, a member is called for. -/
  | member {connective : Connective} {left : Filter} {state : State} {unread : List Char} :
      afterJoint? connective state.unread = some unread →
      Calls settings ⟨.more connective left, state⟩
        ⟨.part connective.member, ⟨unread, state.depth⟩⟩
  /-- Behind that member, the further ones are called for. -/
  | onward {connective : Connective} {left right : Filter} {state next : State}
      {unread : List Char} {log : Log} : afterJoint? connective state.unread = some unread →
      read settings connective.member ⟨unread, state.depth⟩ = .done right next log →
      Calls settings ⟨.more connective left, state⟩
        ⟨.more connective (.binary left connective right), next⟩

/-- Reading the text that `primary` is a part of, the reader of operands is called at `primary`. It
takes up `primary` and finds the filter. -/
def ReadsOperand (settings : Settings) (before primary behind : List Char) (filter : Filter) :
    Prop :=
  ∃ depth log, Relation.ReflTransGen (Calls settings) (.ofText (before ++ (primary ++ behind)))
      ⟨.part .operand, ⟨primary ++ behind, depth⟩⟩ ∧
    operand settings ⟨primary ++ behind, depth⟩ = .done filter ⟨behind, depth⟩ log

/-! ## Calls that find a filter -/

/-- A call that finds a filter. -/
structure Passage (settings : Settings) where
  /-- The call. -/
  call : Call
  /-- What it finds. -/
  found : Filter
  /-- Where it stops. -/
  next : State
  /-- What it records. -/
  log : Log
  reply : call.reply settings = .done found next log

section Passage

variable {settings : Settings} {found : Filter} {state next : State} {log : Log}

/-- A part that was read. -/
def Passage.part {part : Part} (h : read settings part state = .done found next log) :
    Passage settings :=
  ⟨⟨.part part, state⟩, found, next, log, h⟩

/-- Further members that were read. -/
def Passage.more {connective : Connective} {left : Filter}
    (h : readOn settings connective left state = .done found next log) : Passage settings :=
  ⟨⟨.more connective left, state⟩, found, next, log, h⟩

end Passage

/-- The text, up to `rest`, can be derived as what the call is asked for, within the depth limit.
Further members are derived behind the members in front of them, whatever text these have. -/
def Call.Yields (limit : Nat) (call : Call) (filter : Filter) (text rest : List Char) : Prop :=
  match call.demand with
  | .part part => ∃ n, n ≤ limit - call.state.depth ∧ Derives part n filter text rest
  | .more connective left => ∀ {m before}, m ≤ limit - call.state.depth →
      Derives (.chain connective) m left (before ++ call.state.unread) call.state.unread →
      ∃ n, n ≤ limit - call.state.depth ∧ Derives (.chain connective) n filter (before ++ text) rest

/-- The inner call starts behind `front`, and what it finds is at the open place of the context in
what the outer call finds. Another text that may stand there, and derives for another filter, puts
that filter at the open place and changes nothing else. -/
structure Hosts {settings : Settings} (outer inner : Passage settings) (front : List Char)
    (context : Filter.Context) : Prop where
  unread : outer.call.state.unread = front ++ inner.call.state.unread
  leads : Leads settings.maxDepth outer.call.state.depth front inner.call.state.depth
  found : outer.found = context.fill inner.found
  yields : ∀ {filter text}, Replaces inner.call.state.unread text →
    inner.call.Yields settings.maxDepth filter text inner.next.unread →
    outer.call.Yields settings.maxDepth (context.fill filter) (front ++ text) outer.next.unread

section Hosts

variable {settings : Settings} {outer middle inner : Passage settings} {front front' : List Char}
  {context context' : Filter.Context}

theorem Hosts.refl (passage : Passage settings) : Hosts passage passage [] .hole where
  unread := rfl
  leads := leads_plain (by simp)
  found := rfl
  yields _ h := h

theorem Hosts.trans (h : Hosts outer middle front context)
    (h' : Hosts middle inner front' context') :
    Hosts outer inner (front ++ front') (context.comp context') where
  unread := by rw [h.unread, h'.unread, List.append_assoc]
  leads := h.leads.append h'.leads
  found := by rw [h.found, h'.found, Filter.Context.fill_comp]
  yields := by
    intro filter text hreplaces hyields
    rw [Filter.Context.fill_comp, List.append_assoc]
    refine h.yields ?_ (h'.yields hreplaces hyields)
    rw [h'.unread]
    exact hreplaces.append front'

end Hosts

/-! ## One call -/

section Calls

variable {settings : Settings} {found : Filter} {next : State} {log : Log}

/-- The outer passage has found what the call finds, as a part of what it has found itself. -/
def Passage.Uses (outer : Passage settings) (call : Call) : Prop :=
  ∃ (inner : Passage settings) (front : List Char) (context : Filter.Context),
    inner.call = call ∧ Hosts outer inner front context

/-- What is joined to one filter is joined to any other one in the same way: the readers never look
at what they have read. -/
theorem readOn_context :
    ∀ connective left state, ∀ {filter next log},
      readOn settings connective left state = .done filter next log →
      ∃ context : Filter.Context, filter = context.fill left ∧
        ∀ left', readOn settings connective left' state = .done (context.fill left') next log := by
  refine (@read_induction settings (fun _ _ => True) _ (fun _ _ => trivial)
    (fun _ _ _ _ => trivial) ?_).2
  intro connective left state ih filter next log h
  rcases hjoint : afterJoint? connective state.unread with _ | unread
  · rw [readOn_none hjoint] at h
    cases h
    exact ⟨.hole, rfl, fun _ => readOn_none hjoint⟩
  · rw [readOn_some hjoint] at h
    obtain ⟨right, middle, earlier, own, hright, hmore, rfl⟩ := Reply.andThen_eq_done_iff.mp h
    obtain ⟨context, hfilter, hcontext⟩ := (ih unread hjoint).2 right middle earlier hright hmore
    refine ⟨context.comp (.left .hole connective right), ?_, fun left' => ?_⟩
    · rw [Filter.Context.fill_comp]
      exact hfilter
    · rw [readOn_some hjoint, hright, Reply.done_andThen, Filter.Context.fill_comp]
      exact congrArg (Reply.after earlier) (hcontext _)

variable {connective : Connective} {left right : Filter} {text unread unread' : List Char}
  {depth depth' : Nat} {earlier : Log}

theorem uses_inside {inside : List Char} (hdepth : depth < settings.maxDepth)
    (h : read settings .operand ⟨'(' :: inside, depth⟩ = .done found next log) :
    (Passage.part h).Uses ⟨.part (.chain .or), ⟨skipBlanks inside, depth + 1⟩⟩ := by
  have hread := h
  rw [read_group, if_neg (Nat.not_le.mpr hdepth)] at hread
  obtain ⟨inner, middle, earlier, own, hinner, hclose, -⟩ := Reply.andThen_eq_done_iff.mp hread
  obtain ⟨rfl, -, behind, hbehind, hmiddle⟩ := closeGroup_eq_done hclose
  obtain ⟨before, hinside, hbefore⟩ := exists_blanks inside
  refine ⟨.part hinner, '(' :: before, .hole, rfl, congrArg (List.cons '(') hinside,
    leads_enter hdepth hbefore.plain, rfl, ?_⟩
  rintro filter text _ ⟨n, hn, derivation⟩
  replace hn : n ≤ settings.maxDepth - (depth + 1) := hn
  replace derivation : Derives (.chain .or) n filter text middle.unread := derivation
  rw [hmiddle] at derivation
  have hlimit : n + 1 ≤ settings.maxDepth - depth := by omega
  exact ⟨n + 1, hlimit, .group hbefore derivation hbehind⟩

theorem uses_first {state : State}
    (h : read settings (.chain connective) state = .done found next log) :
    (Passage.part h).Uses ⟨.part connective.member, state⟩ := by
  have hread := h
  rw [read_chain] at hread
  obtain ⟨left, middle, earlier, own, hleft, hmore, -⟩ := Reply.andThen_eq_done_iff.mp hread
  obtain ⟨context, hfound, hcontext⟩ := readOn_context _ _ _ hmore
  refine ⟨.part hleft, [], context, rfl, rfl, leads_plain (by simp), hfound, ?_⟩
  rintro filter text _ ⟨n, hn, derivation⟩
  obtain ⟨-, hlonger⟩ := read_sound.2 connective filter middle (hcontext filter)
  rw [(read_sound.1 _ _ hleft).1] at hlonger
  exact hlonger hn (.single derivation)

theorem uses_further
    (hleft : read settings connective.member ⟨text, depth⟩ = .done left ⟨unread, depth'⟩ earlier)
    (h : read settings (.chain connective) ⟨text, depth⟩ = .done found next log) :
    (Passage.part h).Uses ⟨.more connective left, ⟨unread, depth'⟩⟩ := by
  have hread := h
  rw [read_chain, hleft, Reply.done_andThen] at hread
  obtain ⟨own, hmore, -⟩ := Reply.after_eq_done_iff.mp hread
  obtain ⟨rfl, m, hm, derivation⟩ := read_sound.1 _ _ hleft
  obtain ⟨first, rfl, -⟩ := derivation.followed
  refine ⟨.more hmore, first, .hole, rfl, rfl, derivation.leads hm, rfl, ?_⟩
  intro filter text _ hyields
  exact hyields hm (.single derivation)

theorem uses_member (hjoint : afterJoint? connective text = some unread)
    (h : readOn settings connective left ⟨text, depth⟩ = .done found next log) :
    (Passage.more h).Uses ⟨.part connective.member, ⟨unread, depth⟩⟩ := by
  have hread := h
  rw [readOn_some hjoint] at hread
  obtain ⟨right, middle, earlier, own, hright, hmore, -⟩ := Reply.andThen_eq_done_iff.mp hread
  obtain ⟨context, hfound, hcontext⟩ := readOn_context _ _ _ hmore
  obtain ⟨joint, -⟩ := joint_of_afterJoint? hjoint
  obtain ⟨between, rfl, hplain⟩ := joint.plain
  refine ⟨.part hright, between, context.comp (.right left connective .hole), rfl, rfl,
    leads_plain hplain, ?_, ?_⟩
  · rw [Filter.Context.fill_comp]
    exact hfound
  · rintro filter text hreplaces ⟨n, hn, derivation⟩ m before hm hleft
    -- The members in front look at the text behind them only up to its first character.
    have hjoined := (hleft.replace (hreplaces.append between)).joined (joint.replace hreplaces)
      derivation
    obtain ⟨-, hlonger⟩ :=
      read_sound.2 connective _ middle (hcontext (.binary left connective filter))
    rw [(read_sound.1 _ _ hright).1] at hlonger
    rw [Filter.Context.fill_comp]
    exact hlonger (Nat.max_le.mpr ⟨hm, hn⟩) hjoined

theorem uses_onward (hjoint : afterJoint? connective text = some unread)
    (hright : read settings connective.member ⟨unread, depth⟩ =
      .done right ⟨unread', depth'⟩ earlier)
    (h : readOn settings connective left ⟨text, depth⟩ = .done found next log) :
    (Passage.more h).Uses
      ⟨.more connective (.binary left connective right), ⟨unread', depth'⟩⟩ := by
  have hread := h
  rw [readOn_some hjoint, hright, Reply.done_andThen] at hread
  obtain ⟨own, hmore, -⟩ := Reply.after_eq_done_iff.mp hread
  obtain ⟨joint, -⟩ := joint_of_afterJoint? hjoint
  obtain ⟨between, rfl, hplain⟩ := joint.plain
  obtain ⟨rfl, n, hn, derivation⟩ := read_sound.1 _ _ hright
  obtain ⟨first, rfl, -⟩ := derivation.followed
  refine ⟨.more hmore, between ++ first, .hole, rfl, (List.append_assoc _ _ _).symm,
    (leads_plain hplain).append (derivation.leads hn), rfl, ?_⟩
  intro filter text _ hyields m before hm hleft
  replace hleft : Derives (.chain connective) m left (before ++ (between ++ (first ++ unread')))
      (between ++ (first ++ unread')) := hleft
  have hjoined : Derives (.chain connective) (max m n) (.binary left connective right)
      ((before ++ (between ++ first)) ++ unread') unread' := by
    simpa using hleft.joined joint derivation
  obtain ⟨k, hk, hlonger⟩ := hyields (Nat.max_le.mpr ⟨hm, hn⟩) hjoined
  exact ⟨k, hk, by rwa [List.append_assoc] at hlonger⟩

/-- What a call finds is part of what the calling one finds. -/
theorem Calls.uses {outer : Passage settings} {call : Call} (h : Calls settings outer.call call) :
    outer.Uses call := by
  obtain ⟨caller, found, next, log, hreply⟩ := outer
  cases h with
  | inside hdepth => exact uses_inside hdepth hreply
  | first => exact uses_first hreply
  | further hleft => exact uses_further hleft hreply
  | member hjoint => exact uses_member hjoint hreply
  | onward hjoint hright => exact uses_onward hjoint hright hreply

/-- What is found on the way is part of what is found in the end; by induction along the calls. -/
theorem Passage.uses (outer : Passage settings) {call : Call}
    (h : Relation.ReflTransGen (Calls settings) outer.call call) : outer.Uses call := by
  induction h with
  | refl => exact ⟨outer, [], .hole, rfl, .refl outer⟩
  | tail _ hcall ih =>
    obtain ⟨middle, front, context, rfl, hmiddle⟩ := ih
    obtain ⟨inner, front', context', hinner, hhosts⟩ := hcall.uses
    exact ⟨inner, front ++ front', context.comp context', hinner, hmiddle.trans hhosts⟩

end Calls

/-! ## Whole texts -/

section WholeText

variable {settings : Settings}

/-- A text that is read as a filter is a passage, with nothing but blanks behind it. -/
theorem exists_passage_of_wholeText {text : List Char} {filter : Filter} {next : State} {log : Log}
    (h : wholeText settings text = .done filter next log) :
    ∃ whole : Passage settings, whole.call = .ofText text ∧ whole.found = filter ∧
      Blanks whole.next.unread := by
  obtain ⟨inner, middle, earlier, own, hread, hend, -⟩ := Reply.andThen_eq_done_iff.mp h
  obtain ⟨rfl, hnil⟩ := endOfText_eq_done hend
  exact ⟨⟨.ofText text, _, middle, earlier, hread⟩, rfl, rfl, blanks_of_skipBlanks hnil⟩

/-- An operand of a text is part of the filter, at a place where any other filter can be put. -/
theorem ReadsOperand.replaceable {before primary behind : List Char} {filter sub : Filter}
    {next : State} {log : Log}
    (hwhole : wholeText settings (before ++ (primary ++ behind)) = .done filter next log)
    (h : ReadsOperand settings before primary behind sub) :
    ∃ context : Filter.Context, filter = context.fill sub ∧
      ∀ {n inner text}, Denotes n inner text →
        (groupsOf before).opened + 1 + n ≤ settings.maxDepth →
        ∃ n', n' ≤ settings.maxDepth ∧
          Denotes n' (context.fill inner) (before ++ ('(' :: (text ++ ')' :: behind))) := by
  obtain ⟨depth, earlier, hcalls, hoperand⟩ := h
  obtain ⟨⟨call, found, stop, own, hreply⟩, rfl, rfl, hend⟩ := exists_passage_of_wholeText hwhole
  obtain ⟨⟨call, found', next', log', hreply'⟩, front, context, rfl, hhosts⟩ :=
    Passage.uses ⟨_, found, stop, own, hreply⟩ hcalls
  cases hoperand.symm.trans hreply'
  obtain ⟨blanks, htext, hblanks⟩ := exists_blanks (before ++ (primary ++ behind))
  have hunread : skipBlanks (before ++ (primary ++ behind)) = front ++ (primary ++ behind) :=
    hhosts.unread
  rw [hunread, ← List.append_assoc blanks] at htext
  obtain rfl := List.append_cancel_right htext
  have hleads : Leads settings.maxDepth 0 front depth := hhosts.leads
  have hopened : (groupsOf (blanks ++ front)).opened = depth :=
    ((leads_plain hblanks.plain).append hleads [] (reached_nil _)).opened
  refine ⟨context, hhosts.found, fun {n inner text} hdenotes hlimit => ?_⟩
  rw [hopened] at hlimit
  have hbound : n + 1 ≤ settings.maxDepth - depth := by omega
  have hreplaces : Replaces (primary ++ behind) ('(' :: (text ++ ')' :: behind)) :=
    replaces_of_stops (stops_cons.mpr (by decide +kernel))
  obtain ⟨n', hn', derivation⟩ := hhosts.yields hreplaces ⟨n + 1, hbound, hdenotes.group behind⟩
  refine ⟨n', hn', ?_⟩
  rw [List.append_assoc]
  exact .intro hblanks derivation hend

end WholeText

/-- In the text of a filter, any other text of a filter can stand in parentheses in place of an
operand, if the groups do not nest too deeply there. The filter is then the same but for what the
operand stood for. -/
theorem parse_substituted (limit : Nat) (report : Bool) (before primary behind : String)
    (filter sub : Filter)
    (h : (Settings.parse ⟨limit, none, report⟩ (before ++ primary ++ behind)).result = .ok filter)
    (hoperand : ReadsOperand ⟨limit, none, report⟩ before.toList primary.toList behind.toList sub) :
    ∃ context : Filter.Context, filter = context.fill sub ∧
      ∀ (input : String) (inner : Filter),
        (Settings.parse ⟨limit, none, report⟩ input).result = .ok inner →
        (groupsOf before.toList).opened + 1 + (groupsOf input.toList).deepest ≤ limit →
        (Settings.parse ⟨limit, none, report⟩ (before ++ "(" ++ input ++ ")" ++ behind)).result =
          .ok (context.fill inner) := by
  obtain ⟨next, log, hwhole⟩ := exists_wholeText_of_parse h
  have htext : (before ++ primary ++ behind).toList =
      before.toList ++ (primary.toList ++ behind.toList) := by
    simp
  rw [htext] at hwhole
  obtain ⟨context, hfilter, hreplaceable⟩ := hoperand.replaceable hwhole
  refine ⟨context, hfilter, fun input inner hinput hlimit => ?_⟩
  obtain ⟨n, -, hdenotes⟩ := denotes_of_parse hinput
  rw [hdenotes.deepest_groupsOf] at hlimit
  obtain ⟨n', hn', hreplaced⟩ := hreplaceable hdenotes hlimit
  refine parse_of_denotes (by nofun) hn' ?_
  simpa using hreplaced

/-- A disjunction in place of a tag that is in a group, behind an attribute pair. -/
theorem parse_substituted_inGroup :
    let filter := Filter.both (.either (.ofPair "é" "1") (.tag .includes "x")) (.tag .excludes "y")
    let inner : Filter := .either (.tag .excludes "z") (.ofPair "b" ")")
    (Settings.parse ⟨2, none, true⟩ ("(é:1 or " ++ "+x" ++ ") -y")).result = .ok filter ∧
      ReadsOperand ⟨2, none, true⟩ "(é:1 or ".toList "+x".toList ") -y".toList
        (.tag .includes "x") ∧
      (Settings.parse ⟨2, none, true⟩ "-z or b:')'").result = .ok inner ∧
      ∃ context : Filter.Context, filter = context.fill (.tag .includes "x") ∧
        (Settings.parse ⟨2, none, true⟩
          ("(é:1 or " ++ "(" ++ "-z or b:')'" ++ ")" ++ ") -y")).result =
            .ok (context.fill inner) := by
  intro filter inner
  have hfilter : (Settings.parse ⟨2, none, true⟩ ("(é:1 or " ++ "+x" ++ ") -y")).result =
      .ok filter := by
    have hwhole : wholeText ⟨2, none, true⟩ ("(é:1 or " ++ "+x" ++ ") -y").toList =
        .done filter ⟨[], 0⟩ (filter.readLog ⟨2, none, true⟩) := by
      decide +kernel
    rw [parse_of_fits (by nofun), hwhole]
    rfl
  have hinner : (Settings.parse ⟨2, none, true⟩ "-z or b:')'").result = .ok inner := by
    have hwhole : wholeText ⟨2, none, true⟩ "-z or b:')'".toList =
        .done inner ⟨[], 0⟩ (inner.readLog ⟨2, none, true⟩) := by
      decide +kernel
    rw [parse_of_fits (by nofun), hwhole]
    rfl
  have hoperand : ReadsOperand ⟨2, none, true⟩ "(é:1 or ".toList "+x".toList ") -y".toList
      (.tag .includes "x") := by
    have hleft : read ⟨2, none, true⟩ (.chain .and) ⟨"é:1 or +x) -y".toList, 1⟩ =
        .done (.ofPair "é" "1") ⟨" or +x) -y".toList, 1⟩ [.pair (.userDefined "é") "1"] := by
      decide +kernel
    have hjoint : afterJoint? .or " or +x) -y".toList = some "+x) -y".toList := by
      decide +kernel
    have hinside : skipBlanks "é:1 or +x) -y".toList = "é:1 or +x) -y".toList := by
      decide +kernel
    have hgroup : Calls ⟨2, none, true⟩ ⟨.part .operand, ⟨'(' :: "é:1 or +x) -y".toList, 0⟩⟩
        ⟨.part (.chain .or), ⟨skipBlanks "é:1 or +x) -y".toList, 1⟩⟩ := .inside (by decide)
    rw [hinside] at hgroup
    have hcalls : Relation.ReflTransGen (Calls ⟨2, none, true⟩)
        ⟨.part (.chain .or), ⟨'(' :: "é:1 or +x) -y".toList, 0⟩⟩
        ⟨.part .operand, ⟨"+x) -y".toList, 1⟩⟩ :=
      .head .first (.head .first (.head hgroup (.head (.further hleft)
        (.head (.member hjoint) (.head .first .refl)))))
    rw [← skipBlanks_of_stops (stops_cons.mpr isBlank_parenthesis.1)] at hcalls
    exact ⟨1, [.tag .includes "x"], hcalls, by decide +kernel⟩
  obtain ⟨context, hcontext, hreplaced⟩ :=
    parse_substituted 2 true _ _ _ filter _ hfilter hoperand
  exact ⟨hfilter, hoperand, hinner, context, hcontext,
    hreplaced _ inner hinner (by decide +kernel)⟩

end FilterQuery
