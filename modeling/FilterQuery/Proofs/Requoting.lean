import FilterQuery.Proofs.DepthLimit
import FilterQuery.Proofs.Substitution

/-!
# Bare values in quotes

A value means the same with and without quotes, so quotes can be put around any of the bare values
of a text at once. What follows a value is then a quote where a value character stood, which joins
no word and ends no name too early.

* `Requoted bare text text'`: the second text is the first one with some of the runs that `bare`
  names in quotes. `Requoted.pass`: where no such run starts, the texts are the same.
* `Passage.Holds`: one call takes up part of what another one takes up (`Calls.holds`).
* `Call.ReadsBare`: a run that is read as a value on the way. `readsBare_group` and the lemmas after
  it: on which way. `Passage.startsIn`: the run lies in what the call takes up.
* `Covers`: where a call takes text up, it reads the runs that `bare` names. Then so do the calls
  that it makes (`Covers.calls`).
* `read_requotable`: what is read, can be derived from the text with quotes.
* `parse_requoted`: the same filter is read from that text.
-/

namespace FilterQuery

open Text

/-! ## Quotes around runs -/

/-- The second text is the first one with quotes around some of the runs that `bare` names, together
with the text behind them. -/
inductive Requoted (bare : List Char → List Char → Prop) : List Char → List Char → Prop
  | nil : Requoted bare [] []
  | keep (c : Char) {text text' : List Char} : Requoted bare text text' →
      Requoted bare (c :: text) (c :: text')
  | quote {run behind behind' : List Char} : bare run behind → Requoted bare behind behind' →
      Requoted bare (run ++ behind) (quoteMark :: (run ++ quoteMark :: behind'))

/-- The run in front of `behind` starts in the text, and not in the rest of it. -/
def StartsIn (text rest run behind : List Char) : Prop :=
  rest.length < (run ++ behind).length ∧ (run ++ behind).length ≤ text.length

section Requoted

variable {bare : List Char → List Char → Prop} {c : Char} {text text' rest : List Char}

theorem Requoted.replaces (h : Requoted bare text text') : Replaces text text' := by
  cases h with
  | nil | keep => exact replaces_of_head? rfl
  | quote => exact replaces_of_stops (stops_cons.mpr isValueChar_quoteMark)

theorem Requoted.eq_nil (hbare : ∀ {run behind}, bare run behind → run ≠ [])
    (h : Requoted bare [] text') : text' = [] := by
  generalize htext : [] = text at h
  cases h with
  | nil => rfl
  | keep => cases htext
  | quote hrun => exact absurd (List.append_eq_nil_iff.mp htext.symm).1 (hbare hrun)

theorem Requoted.keeps (before : List Char) (h : Requoted bare text text') :
    Requoted bare (before ++ text) (before ++ text') := by
  induction before with
  | nil => exact h
  | cons c before ih => exact .keep c ih

/-- The first character is the same, or a run that starts with it is in quotes. -/
theorem Requoted.cons_cases (h : Requoted bare (c :: text) text') :
    (∃ rest', text' = c :: rest' ∧ Requoted bare text rest') ∨
      ∃ run behind behind', c :: text = run ++ behind ∧ bare run behind ∧
        text' = quoteMark :: (run ++ quoteMark :: behind') ∧ Requoted bare behind behind' := by
  generalize htext : c :: text = whole at h
  cases h with
  | nil => cases htext
  | keep d hrest =>
    obtain ⟨rfl, rfl⟩ := List.cons.inj htext
    exact .inl ⟨_, rfl, hrest⟩
  | quote hrun hbehind => exact .inr ⟨_, _, _, rfl, hrun, rfl, hbehind⟩

/-- Where no run starts, nothing has changed. -/
theorem Requoted.pass {before : List Char}
    (hfree : ∀ {run behind}, bare run behind → ¬StartsIn (before ++ rest) rest run behind)
    (h : Requoted bare (before ++ rest) text') :
    ∃ rest', text' = before ++ rest' ∧ Requoted bare rest rest' := by
  induction before generalizing text' with
  | nil => exact ⟨text', rfl, h⟩
  | cons c before ih =>
    rcases h.cons_cases with ⟨tail, rfl, htail⟩ | ⟨run, behind, behind', htext, hrun, -, -⟩
    · obtain ⟨rest', rfl, hrest⟩ := ih (fun hrun hstart =>
        hfree hrun ⟨hstart.1, Nat.le_succ_of_le hstart.2⟩) htail
      exact ⟨rest', rfl, hrest⟩
    · have hlength : (run ++ behind).length = before.length + rest.length + 1 := by
        rw [← htext]
        simp
      refine absurd ⟨?_, ?_⟩ (hfree hrun)
      · omega
      · simp only [List.cons_append, List.length_cons, List.length_append] at hlength ⊢
        omega

end Requoted

/-! ## What a call takes up -/

/-- The inner passage takes up part of the text that the outer one takes up. -/
structure Passage.Holds {settings : Settings} (outer inner : Passage settings) : Prop where
  start : inner.call.state.unread.length ≤ outer.call.state.unread.length
  stop : outer.next.unread.length ≤ inner.next.unread.length

section Passage

variable {settings : Settings}

theorem length_readOn_le {connective : Connective} {left filter : Filter} {state next : State}
    {log : Log} (h : readOn settings connective left state = .done filter next log) :
    next.unread.length ≤ state.unread.length := by
  have hle : (readOn settings connective left state).left.length ≤ _ :=
    read_left_le.2 connective left state
  rwa [h] at hle

theorem Calls.holds {outer : Passage settings} {call : Call} (h : Calls settings outer.call call) :
    ∃ inner : Passage settings, inner.call = call ∧ outer.Holds inner := by
  obtain ⟨caller, found, next, log, hreply⟩ := outer
  cases h with
  | @inside inside depth hdepth =>
    have hread : read settings .operand ⟨'(' :: inside, depth⟩ = .done found next log := hreply
    rw [read_group, if_neg (Nat.not_le.mpr hdepth)] at hread
    obtain ⟨inner, middle, earlier, own, hinner, hclose, -⟩ := Reply.andThen_eq_done_iff.mp hread
    obtain ⟨-, -, blanks, -, hmiddle⟩ := closeGroup_eq_done hclose
    have hstop : next.unread.length ≤ middle.unread.length := by
      rw [hmiddle, List.append_cons, List.length_append]
      exact Nat.le_add_left _ _
    exact ⟨.part hinner, rfl, Nat.le_succ_of_le (length_skipBlanks_le inside), hstop⟩
  | first =>
    have hread : read settings (.chain _) _ = .done found next log := hreply
    rw [read_chain] at hread
    obtain ⟨left, middle, earlier, own, hleft, hmore, -⟩ := Reply.andThen_eq_done_iff.mp hread
    exact ⟨.part hleft, rfl, Nat.le_refl _, length_readOn_le hmore⟩
  | further hleft =>
    have hread : read settings (.chain _) _ = .done found next log := hreply
    rw [read_chain, hleft, Reply.done_andThen] at hread
    obtain ⟨own, hmore, -⟩ := Reply.after_eq_done_iff.mp hread
    exact ⟨.more hmore, rfl, Nat.le_of_lt (length_member_lt hleft), Nat.le_refl _⟩
  | member hjoint =>
    have hread : readOn settings _ _ _ = .done found next log := hreply
    rw [readOn_some hjoint] at hread
    obtain ⟨right, middle, earlier, own, hright, hmore, -⟩ := Reply.andThen_eq_done_iff.mp hread
    exact ⟨.part hright, rfl, Nat.le_of_lt (length_afterJoint?_lt hjoint), length_readOn_le hmore⟩
  | onward hjoint hright =>
    have hread : readOn settings _ _ _ = .done found next log := hreply
    rw [readOn_some hjoint, hright, Reply.done_andThen] at hread
    obtain ⟨own, hmore, -⟩ := Reply.after_eq_done_iff.mp hread
    have hstart := Nat.lt_trans (length_member_lt hright) (length_afterJoint?_lt hjoint)
    exact ⟨.more hmore, rfl, Nat.le_of_lt hstart, Nat.le_refl _⟩

/-- By induction along the calls. -/
theorem Passage.holds (outer : Passage settings) {call : Call}
    (h : Relation.ReflTransGen (Calls settings) outer.call call) :
    ∃ inner : Passage settings, inner.call = call ∧ outer.Holds inner := by
  induction h with
  | refl => exact ⟨outer, rfl, Nat.le_refl _, Nat.le_refl _⟩
  | tail _ hcall ih =>
    obtain ⟨middle, rfl, hmiddle⟩ := ih
    obtain ⟨inner, hinner, hholds⟩ := hcall.holds
    exact ⟨inner, hinner, Nat.le_trans hholds.start hmiddle.start,
      Nat.le_trans hmiddle.stop hholds.stop⟩

end Passage

/-! ## Bare values -/

/-- On the way from the call, the run in front of `behind` is read as the value of an attribute
pair, without quotes. -/
def Call.ReadsBare (settings : Settings) (call : Call) (run behind : List Char) : Prop :=
  ∃ name depth, Run isKeyChar name ∧ Run isValueChar run ∧
    readValue (run ++ behind) = .ok (String.ofList run, behind) ∧
    Relation.ReflTransGen (Calls settings) call
      ⟨.part .operand, ⟨name ++ ':' :: (run ++ behind), depth⟩⟩

section ReadsBare

variable {settings : Settings} {run behind : List Char}

theorem Call.ReadsBare.ne_nil {call : Call} (h : call.ReadsBare settings run behind) :
    run ≠ [] := by
  obtain ⟨name, depth, -, hrun, -⟩ := h
  exact hrun.ne_nil

/-- The run lies in what the call takes up. -/
theorem Passage.startsIn (passage : Passage settings)
    (h : passage.call.ReadsBare settings run behind) :
    StartsIn passage.call.state.unread passage.next.unread run behind := by
  obtain ⟨name, depth, hname, hrun, hvalue, hcalls⟩ := h
  obtain ⟨⟨call, found, next, log, hreply⟩, rfl, hstart, hstop⟩ := passage.holds hcalls
  have hoperand : operand settings ⟨name ++ ':' :: (run ++ behind), depth⟩ = _ := hreply
  rw [operand_key hname, hvalue] at hoperand
  cases hoperand
  have hpos := List.length_pos_iff.mpr hrun.ne_nil
  simp only [StartsIn, List.length_append, List.length_cons] at hstart hstop ⊢
  omega

/-- The call is for the attribute pair itself, or it makes another call on the way. -/
theorem Call.ReadsBare.cases {call : Call} (h : call.ReadsBare settings run behind) :
    (∃ name depth, call = ⟨.part .operand, ⟨name ++ ':' :: (run ++ behind), depth⟩⟩ ∧
      Run isKeyChar name ∧ Run isValueChar run ∧
      readValue (run ++ behind) = .ok (String.ofList run, behind)) ∨
    ∃ called, Calls settings call called ∧ called.ReadsBare settings run behind := by
  obtain ⟨name, depth, hname, hrun, hvalue, hcalls⟩ := h
  rcases hcalls.cases_head with rfl | ⟨called, hcall, hcalls⟩
  · exact .inl ⟨name, depth, rfl, hname, hrun, hvalue⟩
  · exact .inr ⟨called, hcall, name, depth, hname, hrun, hvalue, hcalls⟩

theorem readsBare_group {inside : List Char} {depth : Nat}
    (h : Call.ReadsBare settings ⟨.part .operand, ⟨'(' :: inside, depth⟩⟩ run behind) :
    Call.ReadsBare settings ⟨.part (.chain .or), ⟨skipBlanks inside, depth + 1⟩⟩ run behind := by
  rcases h.cases with ⟨name, depth', hcall, hname, -⟩ | ⟨called, hcall, hcalled⟩
  · obtain ⟨c, tail, rfl, -, hc, -⟩ := hname.exists_key
    simp only [Call.mk.injEq, State.mk.injEq, List.cons_append, List.cons.injEq] at hcall
    exact absurd hcall.2.1.1.symm hc
  · cases hcall
    exact hcalled

theorem not_readsBare_sign {polarity : Polarity} {rest : List Char} {depth : Nat} :
    ¬Call.ReadsBare settings ⟨.part .operand, ⟨polarity.sign :: rest, depth⟩⟩ run behind := by
  intro h
  rcases h.cases with ⟨name, depth', hcall, hname, -⟩ | ⟨called, hcall, -⟩
  · obtain ⟨c, tail, rfl, -, -, hc⟩ := hname.exists_key
    simp only [Call.mk.injEq, State.mk.injEq, List.cons_append, List.cons.injEq] at hcall
    rw [← hcall.2.1.1, ofSign?_sign] at hc
    cases hc
  · generalize hsign : polarity.sign = c at hcall
    cases hcall
    exact sign_ne_parenthesis polarity hsign

/-- At a key nothing else is read than the value behind its separator. -/
theorem readsBare_key {name text : List Char} {depth : Nat} (hname : Run isKeyChar name)
    (h : Call.ReadsBare settings ⟨.part .operand, ⟨name ++ ':' :: text, depth⟩⟩ run behind) :
    Run isValueChar run ∧ text = run ++ behind ∧
      readValue text = .ok (String.ofList run, behind) := by
  rcases h.cases with ⟨name', depth', hcall, hname', hrun, hvalue⟩ | ⟨called, hcall, -⟩
  · have htext : name ++ ':' :: text = name' ++ ':' :: (run ++ behind) :=
      congrArg (fun call : Call => call.state.unread) hcall
    replace htext := congrArg (List.dropWhile isKeyChar) htext
    rw [dropWhile_run hname.all (stops_cons.mpr isKeyChar_colon),
      dropWhile_run hname'.all (stops_cons.mpr isKeyChar_colon)] at htext
    obtain rfl := (List.cons.inj htext).2
    exact ⟨hrun, rfl, hvalue⟩
  · obtain ⟨c, tail, rfl, -, hc, -⟩ := hname.exists_key
    rw [List.cons_append] at hcall
    cases hcall
    exact absurd rfl hc

theorem readsBare_chain {connective : Connective} {state middle : State} {left : Filter}
    {log : Log} (hleft : read settings connective.member state = .done left middle log)
    (h : Call.ReadsBare settings ⟨.part (.chain connective), state⟩ run behind) :
    Call.ReadsBare settings ⟨.part connective.member, state⟩ run behind ∨
      Call.ReadsBare settings ⟨.more connective left, middle⟩ run behind := by
  rcases h.cases with ⟨name, depth, hcall, -⟩ | ⟨called, hcall, hcalled⟩
  · cases hcall
  · cases hcall with
    | first => exact .inl hcalled
    | further hleft' =>
      cases hleft.symm.trans hleft'
      exact .inr hcalled

theorem readsBare_more {connective : Connective} {left right : Filter} {state middle : State}
    {unread : List Char} {log : Log} (hjoint : afterJoint? connective state.unread = some unread)
    (hright : read settings connective.member ⟨unread, state.depth⟩ = .done right middle log)
    (h : Call.ReadsBare settings ⟨.more connective left, state⟩ run behind) :
    Call.ReadsBare settings ⟨.part connective.member, ⟨unread, state.depth⟩⟩ run behind ∨
      Call.ReadsBare settings ⟨.more connective (.binary left connective right), middle⟩ run
        behind := by
  rcases h.cases with ⟨name, depth, hcall, -⟩ | ⟨called, hcall, hcalled⟩
  · cases hcall
  · cases hcall with
    | member hjoint' =>
      cases hjoint.symm.trans hjoint'
      exact .inl hcalled
    | onward hjoint' hright' =>
      cases hjoint.symm.trans hjoint'
      cases hright.symm.trans hright'
      exact .inr hcalled

end ReadsBare

/-! ## Covering -/

/-- Where the passage takes text up, it reads the runs that `bare` names. -/
def Covers {settings : Settings} (bare : List Char → List Char → Prop)
    (passage : Passage settings) : Prop :=
  ∀ {run behind}, bare run behind →
    StartsIn passage.call.state.unread passage.next.unread run behind →
    passage.call.ReadsBare settings run behind

section Covers

variable {settings : Settings} {bare : List Char → List Char → Prop}

/-- What the first one of two calls that follow each other takes up, the second one does not
read. -/
theorem readsBare_first {outer first : Passage settings} {call : Call} {run behind : List Char}
    (hcall : Calls settings outer.call call) (hnext : call.state.unread = first.next.unread)
    (h : first.call.ReadsBare settings run behind ∨ call.ReadsBare settings run behind)
    (hstarts : StartsIn first.call.state.unread first.next.unread run behind) :
    first.call.ReadsBare settings run behind := by
  rcases h with hfirst | hsecond
  · exact hfirst
  · obtain ⟨second, rfl, -⟩ := hcall.holds
    have hle := (second.startsIn hsecond).2
    rw [hnext] at hle
    exact absurd hstarts.1 (Nat.not_lt.mpr hle)

/-- What the second one takes up, the first one does not read. -/
theorem readsBare_second (first second : Passage settings) {run behind : List Char}
    (hnext : second.call.state.unread = first.next.unread)
    (h : first.call.ReadsBare settings run behind ∨ second.call.ReadsBare settings run behind)
    (hstarts : StartsIn second.call.state.unread second.next.unread run behind) :
    second.call.ReadsBare settings run behind := by
  rcases h with hfirst | hsecond
  · have hle := hstarts.2
    rw [hnext] at hle
    exact absurd (first.startsIn hfirst).1 (Nat.not_lt.mpr hle)
  · exact hsecond

theorem Passage.next_eq {one other : Passage settings} (h : one.call = other.call) :
    one.next = other.next := by
  have hreply := one.reply
  rw [h, other.reply] at hreply
  exact (Reply.done.inj hreply).2.1.symm

/-- A call reads the runs that start in what it takes up, if the calling one does so: no other call
takes up the same. -/
theorem Covers.calls {outer inner : Passage settings} (hcovers : Covers bare outer)
    (h : Calls settings outer.call inner.call) : Covers bare inner := by
  intro run behind hbare hstarts
  have hholds : outer.Holds inner := by
    obtain ⟨inner', hinner, hstart, hstop⟩ := h.holds
    rw [hinner] at hstart
    rw [Passage.next_eq hinner] at hstop
    exact ⟨hstart, hstop⟩
  have houter := hcovers hbare ⟨Nat.lt_of_le_of_lt hholds.stop hstarts.1,
    Nat.le_trans hstarts.2 hholds.start⟩
  obtain ⟨caller, found, next, log, hreply⟩ := outer
  obtain ⟨called, found', next', log', hreply'⟩ := inner
  cases h with
  | inside => exact readsBare_group houter
  | first =>
    have hcall : Calls settings (Passage.mk _ found next log hreply).call _ := .further hreply'
    exact readsBare_first hcall rfl (readsBare_chain hreply' houter) hstarts
  | further hleft =>
    have hread := readsBare_chain hleft houter
    exact readsBare_second (.part hleft) (.more hreply') rfl hread hstarts
  | member hjoint =>
    have hcall : Calls settings (Passage.mk _ found next log hreply).call _ :=
      .onward hjoint hreply'
    exact readsBare_first hcall rfl (readsBare_more hjoint hreply' houter) hstarts
  | onward hjoint hright =>
    have hread := readsBare_more hjoint hright houter
    exact readsBare_second (.part hright) (.more hreply') rfl hread hstarts

/-- Where the passage takes text up without reading a bare value, nothing has changed. -/
theorem Covers.pass {passage : Passage settings} (hcovers : Covers bare passage)
    {before rest text' : List Char}
    (hstart : (before ++ rest).length ≤ passage.call.state.unread.length)
    (hstop : passage.next.unread.length ≤ rest.length)
    (hfree : ∀ {run behind}, passage.call.ReadsBare settings run behind →
      ¬StartsIn (before ++ rest) rest run behind)
    (h : Requoted bare (before ++ rest) text') :
    ∃ rest', text' = before ++ rest' ∧ Requoted bare rest rest' :=
  h.pass fun hbare hstarts => hfree (hcovers hbare
    ⟨Nat.lt_of_le_of_lt hstop hstarts.1, Nat.le_trans hstarts.2 hstart⟩) hstarts

end Covers

/-! ## Reading the text with quotes -/

section Read

variable {settings : Settings} {bare : List Char → List Char → Prop} {filter : Filter}
  {next : State} {log : Log}

/-- A value that is bare may be in quotes, as a whole. -/
theorem requoted_value {value value' rest : List Char} {found : String}
    (hvalue : readValue value = .ok (found, rest))
    (hbare : ∀ {run behind}, bare run behind → StartsIn value rest run behind →
      Run isValueChar run ∧ value = run ++ behind ∧
        readValue value = .ok (String.ofList run, behind))
    (h : Requoted bare value value') :
    ∃ rest', Requoted bare rest rest' ∧ ValueAt found value' rest' := by
  have hlt := length_readValue_lt hvalue
  obtain ⟨consumed, rfl, hconsumed⟩ := (readValue_eq_ok_iff.mp hvalue).followed
  rcases consumed with _ | ⟨c, consumed⟩
  · exact absurd hlt (Nat.lt_irrefl _)
  · rw [List.cons_append] at h hbare
    rcases h.cons_cases with ⟨tail, rfl, htail⟩ | ⟨run, behind, behind', htext, hrun, rfl, hbehind⟩
    · obtain ⟨rest', rfl, hrest⟩ := htail.pass fun hrun hstarts => by
        have hlength := hstarts.2
        rw [← (hbare hrun ⟨hstarts.1, Nat.le_succ_of_le hlength⟩).2.1] at hlength
        exact absurd hlength (Nat.not_succ_le_self _)
      exact ⟨rest', hrest, hconsumed hrest.replaces⟩
    · rw [List.cons_append] at hvalue
      have hstarts : StartsIn (c :: (consumed ++ rest)) rest run behind := by
        rw [StartsIn, ← htext]
        exact ⟨hlt, Nat.le_refl _⟩
      obtain ⟨hvalueRun, -, hread⟩ := hbare hrun hstarts
      cases hvalue.symm.trans hread
      have hquote : quoteMark ∉ run := fun hmem =>
        (plain_of_isValueChar (hvalueRun.all _ hmem)).2.2 rfl
      exact ⟨behind', hbehind, .quoted hquote⟩

/-- The text, up to `rest`, can be derived as what the call is asked for, within the depth limit.
Further members lengthen any derivation of the members in front of the text. -/
def Call.Accepts (limit : Nat) (call : Call) (filter : Filter) (text rest : List Char) : Prop :=
  match call.demand with
  | .part part => ∃ n, n ≤ limit - call.state.depth ∧ Derives part n filter text rest
  | .more connective left => ∀ {m whole}, m ≤ limit - call.state.depth →
      Derives (.chain connective) m left whole text →
      ∃ n, n ≤ limit - call.state.depth ∧ Derives (.chain connective) n filter whole rest

/-- With quotes around some of the runs that `bare` names, the text of the passage is accepted for
what the passage has found, up to a rest that has quotes in the same way. -/
def Requotable (bare : List Char → List Char → Prop) (passage : Passage settings) : Prop :=
  ∀ {text'}, Requoted bare passage.call.state.unread text' →
    ∃ rest', Requoted bare passage.next.unread rest' ∧
      passage.call.Accepts settings.maxDepth passage.found text' rest'

theorem requotable_key {name text : List Char} {depth : Nat} (hname : Run isKeyChar name)
    (h : read settings .operand ⟨name ++ ':' :: text, depth⟩ = .done filter next log)
    (hcovers : Covers bare (.part h)) : Requotable bare (.part h) := by
  intro text' htext
  replace htext : Requoted bare (name ++ ':' :: text) text' := htext
  have hread := (operand_key hname text).symm.trans h
  split at hread
  · next value rest hvalue =>
    cases hread
    have hstop := Nat.le_of_lt (length_readValue_lt hvalue)
    have hlength : text.length ≤ (name ++ ':' :: text).length := by
      rw [List.length_append, List.length_cons]
      omega
    -- No value is read before the separator, and behind it no other one.
    have hfree : ∀ {run behind}, (Passage.part h).call.ReadsBare settings run behind →
        ¬StartsIn (name ++ [':'] ++ text) text run behind := by
      intro run behind hrun hstarts
      rw [(readsBare_key hname hrun).2.1] at hstarts
      exact absurd hstarts.1 (Nat.lt_irrefl _)
    have hreads : ∀ {run behind}, bare run behind → StartsIn text rest run behind →
        Run isValueChar run ∧ text = run ++ behind ∧
          readValue text = .ok (String.ofList run, behind) := fun hrun hstarts =>
      readsBare_key hname (hcovers hrun ⟨hstarts.1, Nat.le_trans hstarts.2 hlength⟩)
    rw [List.append_cons] at htext
    obtain ⟨value', rfl, hvalue'⟩ := hcovers.pass
      (Nat.le_of_eq (congrArg List.length (List.append_cons name ':' text).symm)) hstop hfree htext
    obtain ⟨rest', hrest, hvalueAt⟩ := requoted_value hvalue hreads hvalue'
    rw [← List.append_cons]
    exact ⟨rest', hrest, 0, Nat.zero_le _, .pair hname hvalueAt⟩
  · cases hread

theorem requotable_sign {polarity : Polarity} {text : List Char} {depth : Nat}
    (h : read settings .operand ⟨polarity.sign :: text, depth⟩ = .done filter next log)
    (hcovers : Covers bare (.part h)) : Requotable bare (.part h) := by
  intro text' htext
  obtain ⟨name, hname, hstops, rfl, rfl, -⟩ :=
    tagOperand_eq_done ((operand_sign polarity text).symm.trans h)
  replace htext : Requoted bare ((polarity.sign :: name) ++ next.unread) text' := htext
  obtain ⟨rest', rfl, hrest⟩ := hcovers.pass (Nat.le_refl _) (Nat.le_refl _)
    (fun hrun => absurd hrun not_readsBare_sign) htext
  exact ⟨rest', hrest, 0, Nat.zero_le _,
    .tag hname (hrest.replaces.stops (fun _ => isValueChar_of_isTagChar) hstops)⟩

theorem requotable_group {inside : List Char} {depth : Nat}
    (ih : ∀ {inner middle earlier} (hinner : read settings (.chain .or)
      ⟨skipBlanks inside, depth + 1⟩ = .done inner middle earlier),
      Covers bare (.part hinner) → Requotable bare (.part hinner))
    (h : read settings .operand ⟨'(' :: inside, depth⟩ = .done filter next log)
    (hcovers : Covers bare (.part h)) : Requotable bare (.part h) := by
  intro text' htext
  have hread := h
  rw [read_group] at hread
  split at hread
  · cases hread
  · next hdepth =>
    obtain ⟨inner, middle, earlier, own, hinner, hclose, -⟩ := Reply.andThen_eq_done_iff.mp hread
    obtain ⟨rfl, -, blanks, hblanks, hmiddle⟩ := closeGroup_eq_done hclose
    obtain ⟨before, hinside, hbefore⟩ := exists_blanks inside
    have hcall : Calls settings (Passage.part h).call (Passage.part hinner).call :=
      .inside (Nat.lt_of_not_le hdepth)
    have hinnerCovers : Covers bare (Passage.part hinner) := hcovers.calls hcall
    -- Nothing is read in front of the disjunction or behind it.
    have hreads : ∀ {run behind}, (Passage.part h).call.ReadsBare settings run behind →
        StartsIn (skipBlanks inside) middle.unread run behind := by
      intro run behind hrun
      exact (Passage.part hinner).startsIn (readsBare_group hrun)
    have hlt : middle.unread.length < (skipBlanks inside).length := length_disjunction_lt hinner
    have hskip := length_skipBlanks_le inside
    have hlength := congrArg List.length hmiddle
    rw [List.append_cons, List.length_append] at hlength
    have hopening : '(' :: inside = ('(' :: before) ++ skipBlanks inside := by
      rw [List.cons_append, ← hinside]
    have hstop : next.unread.length ≤ (skipBlanks inside).length := by omega
    replace htext : Requoted bare ('(' :: inside) text' := htext
    rw [hopening] at htext
    obtain ⟨inner', rfl, hinner'⟩ := hcovers.pass
      (Nat.le_of_eq (congrArg List.length hopening.symm)) hstop
      (fun hrun hstarts => absurd (hreads hrun).2 (Nat.not_le.mpr hstarts.1)) htext
    obtain ⟨middle', hmiddle', n, hn, derivation⟩ := ih hinner hinnerCovers hinner'
    have hclosing : (blanks ++ [')'] ++ next.unread).length ≤ ('(' :: inside).length := by
      rw [List.length_append, ← hlength, List.length_cons]
      omega
    replace hmiddle' : Requoted bare middle.unread middle' := hmiddle'
    rw [hmiddle, List.append_cons] at hmiddle'
    obtain ⟨rest', rfl, hrest⟩ := hcovers.pass hclosing (Nat.le_refl _)
      (fun hrun hstarts => by
        have hbehind := (hreads hrun).1
        rw [hmiddle, List.append_cons] at hbehind
        exact absurd hstarts.2 (Nat.not_le.mpr hbehind)) hmiddle'
    rw [← List.append_cons] at derivation
    have hdepth' : n + 1 ≤ settings.maxDepth - depth := by
      have : n ≤ settings.maxDepth - (depth + 1) := hn
      omega
    exact ⟨rest', hrest, n + 1, hdepth', .group hbefore derivation hblanks⟩

/-- What is read, can be derived from the text with quotes; by induction along the descent. -/
theorem read_requotable :
    (∀ part state, ∀ {filter next log} (h : read settings part state = .done filter next log),
      Covers bare (.part h) → Requotable bare (.part h)) ∧
    ∀ connective left state, ∀ {filter next log}
      (h : readOn settings connective left state = .done filter next log),
      Covers bare (.more h) → Requotable bare (.more h) := by
  apply read_induction
  case operand =>
    rintro ⟨text, depth⟩ ih filter next log h hcovers
    cases opening text with
    | nil => cases operand_nil.symm.trans h
    | group inside => exact requotable_group (ih inside rfl) h hcovers
    | sign polarity rest => exact requotable_sign h hcovers
    | key text hname => exact requotable_key hname h hcovers
    | letters hname hrest => cases (operand_letters hname hrest).symm.trans h
    | other rest hgroup hsign hkey => cases (operand_other hgroup hsign hkey).symm.trans h
  case chain =>
    intro connective state ih ihOn filter next log h hcovers text' htext
    have hread := h
    rw [read_chain] at hread
    obtain ⟨left, middle, earlier, own, hleft, hmore, -⟩ := Reply.andThen_eq_done_iff.mp hread
    have hfirst : Calls settings (Passage.part h).call (Passage.part hleft).call := .first
    have hfurther : Calls settings (Passage.part h).call (Passage.more hmore).call :=
      .further hleft
    obtain ⟨middle', hmiddle, m, hm, derivation⟩ := ih hleft (hcovers.calls hfirst) htext
    obtain ⟨rest', hrest, hlonger⟩ :=
      ihOn left middle earlier hleft hmore (hcovers.calls hfurther) hmiddle
    obtain ⟨hdepth, -⟩ := read_sound.1 _ _ hleft
    simp only [Call.Accepts, Passage.more, hdepth] at hlonger
    exact ⟨rest', hrest, hlonger hm (.single derivation)⟩
  case more =>
    intro connective left state ih filter next log h hcovers text' htext
    rcases hjoint : afterJoint? connective state.unread with _ | unread
    · have hread := h
      rw [readOn_none hjoint] at hread
      cases hread
      exact ⟨text', htext, fun hm derivation => ⟨_, hm, derivation⟩⟩
    · have hread := h
      rw [readOn_some hjoint] at hread
      obtain ⟨ihMember, ihOn⟩ := ih unread hjoint
      obtain ⟨right, middle, earlier, own, hright, hmore, -⟩ := Reply.andThen_eq_done_iff.mp hread
      have hmember : Calls settings (Passage.more h).call (Passage.part hright).call :=
        .member hjoint
      have honward : Calls settings (Passage.more h).call (Passage.more hmore).call :=
        .onward hjoint hright
      have hlt : middle.unread.length < unread.length := length_member_lt hright
      have hle : next.unread.length ≤ middle.unread.length := length_readOn_le hmore
      -- No bare value is read in what joins the members.
      have hreads : ∀ {run behind}, (Passage.more h).call.ReadsBare settings run behind →
          (run ++ behind).length ≤ unread.length := by
        intro run behind hrun
        rcases readsBare_more hjoint hright hrun with hrun | hrun
        · exact ((Passage.part hright).startsIn hrun).2
        · exact Nat.le_trans ((Passage.more hmore).startsIn hrun).2 (Nat.le_of_lt hlt)
      obtain ⟨joint, -⟩ := joint_of_afterJoint? hjoint
      obtain ⟨between, hbetween, -⟩ := joint.plain
      replace htext : Requoted bare state.unread text' := htext
      rw [hbetween] at htext joint
      obtain ⟨unread', rfl, hunread⟩ := hcovers.pass (by rw [← hbetween]; exact Nat.le_refl _)
        (Nat.le_trans hle (Nat.le_of_lt hlt))
        (fun hrun hstarts => absurd (hreads hrun) (Nat.not_le.mpr hstarts.1)) htext
      obtain ⟨middle', hmiddle, n, hn, derivation⟩ :=
        ihMember hright (hcovers.calls hmember) hunread
      obtain ⟨rest', hrest, hlonger⟩ :=
        ihOn right middle earlier hright hmore (hcovers.calls honward) hmiddle
      obtain ⟨hdepth, -⟩ := read_sound.1 _ _ hright
      simp only [Call.Accepts, Passage.more, hdepth] at hlonger
      exact ⟨rest', hrest, fun hm hleft => hlonger (Nat.max_le.mpr ⟨hm, hn⟩)
        (hleft.joined (joint.replace hunread.replaces) derivation)⟩

end Read

/-! ## Whole texts -/

theorem denotes_of_requoted {settings : Settings} {bare : List Char → List Char → Prop}
    {text text' : List Char} {filter : Filter} {next : State} {log : Log}
    (h : wholeText settings text = .done filter next log)
    (hbare : ∀ {run behind}, bare run behind → (Call.ofText text).ReadsBare settings run behind)
    (hquoted : Requoted bare text text') : ∃ n, n ≤ settings.maxDepth ∧ Denotes n filter text' := by
  obtain ⟨inner, middle, earlier, own, hread, hend, -⟩ := Reply.andThen_eq_done_iff.mp h
  replace hread : read settings (.chain .or) ⟨skipBlanks text, 0⟩ = .done inner middle earlier :=
    hread
  obtain ⟨rfl, hnil⟩ := endOfText_eq_done hend
  obtain ⟨before, htext, hbefore⟩ := exists_blanks text
  -- Nothing is read in the blanks in front of the filter and behind it.
  have hstarts : ∀ {run behind}, bare run behind →
      StartsIn (skipBlanks text) middle.unread run behind := fun hrun =>
    (Passage.part hread).startsIn (hbare hrun)
  rw [htext] at hquoted
  obtain ⟨inner', rfl, hinner⟩ := hquoted.pass fun hrun hfront =>
    absurd (hstarts hrun).2 (Nat.not_le.mpr hfront.1)
  obtain ⟨rest', hrest, n, hn, derivation⟩ :=
    read_requotable.1 _ _ hread (fun hrun _ => hbare hrun) hinner
  replace hrest : Requoted bare (middle.unread ++ []) rest' := by
    rw [List.append_nil]
    exact hrest
  obtain ⟨tail, rfl, htail⟩ := hrest.pass fun hrun hbehind => by
    rw [List.append_nil] at hbehind
    exact absurd hbehind.2 (Nat.not_le.mpr (hstarts hrun).1)
  obtain rfl := htail.eq_nil fun hrun => (hbare hrun).ne_nil
  rw [List.append_nil] at derivation
  exact ⟨n, hn, .intro hbefore derivation (blanks_of_skipBlanks hnil)⟩

/-- In the text of a filter, quotes can be put around any of the values that are read without
quotes. The text is then read as the same filter. -/
theorem parse_requoted (limit : Nat) (report : Bool) (input input' : String) (filter : Filter)
    (h : (Settings.parse ⟨limit, none, report⟩ input).result = .ok filter)
    (hquoted : Requoted ((Call.ofText input.toList).ReadsBare ⟨limit, none, report⟩) input.toList
      input'.toList) :
    (Settings.parse ⟨limit, none, report⟩ input').result = .ok filter := by
  obtain ⟨next, log, hwhole⟩ := exists_wholeText_of_parse h
  obtain ⟨n, hn, hdenotes⟩ := denotes_of_requoted hwhole (fun hrun => hrun) hquoted
  exact parse_of_denotes (by nofun) hn hdenotes

/-- Quotes around a value in a group and around the last one, but not around one in between. -/
theorem parse_requoted_inGroup :
    let input := "(é:1 or b:x-y) c:2"
    let input' := "(é:'1' or b:x-y) c:'2'"
    let filter :=
      Filter.both (.either (.ofPair "é" "1") (.ofPair "b" "x-y")) (.ofPair "c" "2")
    (Settings.parse ⟨1, none, true⟩ input).result = .ok filter ∧
      Requoted ((Call.ofText input.toList).ReadsBare ⟨1, none, true⟩) input.toList input'.toList ∧
      (Settings.parse ⟨1, none, true⟩ input').result = .ok filter := by
  intro input input' filter
  have hresult : (Settings.parse ⟨1, none, true⟩ input).result = .ok filter := by
    have hwhole : wholeText ⟨1, none, true⟩ input.toList =
        .done filter ⟨[], 0⟩ (filter.readLog ⟨1, none, true⟩) := by
      decide +kernel
    rw [parse_of_fits (by nofun), hwhole]
    rfl
  have hstart : Call.ofText input.toList =
      ⟨.part (.chain .or), ⟨'(' :: "é:1 or b:x-y) c:2".toList, 0⟩⟩ := by
    have hskip : skipBlanks input.toList = '(' :: "é:1 or b:x-y) c:2".toList := by decide +kernel
    rw [Call.ofText, hskip]
  have hfirst : (Call.ofText input.toList).ReadsBare ⟨1, none, true⟩ "1".toList
      (" or b:x-y) c:".toList ++ ("2".toList ++ [])) := by
    have hgroup : Calls ⟨1, none, true⟩ ⟨.part .operand, ⟨'(' :: "é:1 or b:x-y) c:2".toList, 0⟩⟩
        ⟨.part (.chain .or), ⟨skipBlanks "é:1 or b:x-y) c:2".toList, 1⟩⟩ := .inside (by decide)
    have hinside : skipBlanks "é:1 or b:x-y) c:2".toList =
        "é".toList ++ ':' :: ("1".toList ++ (" or b:x-y) c:".toList ++ ("2".toList ++ []))) := by
      decide +kernel
    rw [hinside] at hgroup
    have hcalls : Relation.ReflTransGen (Calls ⟨1, none, true⟩)
        ⟨.part (.chain .or), ⟨'(' :: "é:1 or b:x-y) c:2".toList, 0⟩⟩
        ⟨.part .operand, ⟨"é".toList ++ ':' ::
          ("1".toList ++ (" or b:x-y) c:".toList ++ ("2".toList ++ []))), 1⟩⟩ :=
      .head .first (.head .first (.head hgroup (.head .first (.head .first .refl))))
    rw [hstart]
    exact ⟨"é".toList, 1, by decide +kernel, by decide +kernel, by rfl, hcalls⟩
  have hlast : (Call.ofText input.toList).ReadsBare ⟨1, none, true⟩ "2".toList [] := by
    have hleft : read ⟨1, none, true⟩ .operand ⟨'(' :: "é:1 or b:x-y) c:2".toList, 0⟩ =
        .done (.either (.ofPair "é" "1") (.ofPair "b" "x-y")) ⟨" c:2".toList, 0⟩
          [.pair (.userDefined "é") "1", .pair (.userDefined "b") "x-y"] := by
      decide +kernel
    have hjoint : afterJoint? .and " c:2".toList =
        some ("c".toList ++ ':' :: ("2".toList ++ [])) := by
      decide +kernel
    have hcalls : Relation.ReflTransGen (Calls ⟨1, none, true⟩)
        ⟨.part (.chain .or), ⟨'(' :: "é:1 or b:x-y) c:2".toList, 0⟩⟩
        ⟨.part .operand, ⟨"c".toList ++ ':' :: ("2".toList ++ []), 0⟩⟩ :=
      .head .first (.head (.further hleft) (.head (.member hjoint) .refl))
    rw [hstart]
    exact ⟨"c".toList, 0, by decide +kernel, by decide +kernel, by rfl, hcalls⟩
  have hquoted : Requoted ((Call.ofText input.toList).ReadsBare ⟨1, none, true⟩) input.toList
      input'.toList := by
    have hinput : input.toList = "(é:".toList ++
        ("1".toList ++ (" or b:x-y) c:".toList ++ ("2".toList ++ []))) := by
      decide +kernel
    have hinput' : input'.toList = "(é:".toList ++ (quoteMark :: ("1".toList ++ (quoteMark ::
        (" or b:x-y) c:".toList ++ (quoteMark :: ("2".toList ++ [quoteMark])))))) := by
      decide +kernel
    have hkept := Requoted.keeps "(é:".toList
      (.quote hfirst (.keeps " or b:x-y) c:".toList (.quote hlast .nil)))
    rwa [← hinput, ← hinput'] at hkept
  exact ⟨hresult, hquoted, parse_requoted 1 true input input' filter hresult hquoted⟩

end FilterQuery
