import Mathlib.Data.Nat.Find
import FilterQuery.Proofs.RoundTrip

/-!
# The depth limit as a threshold

From some limit on the depth limit does not matter for a text. Below it, every limit stops reading
at the first group that is too deep for it.

* `FirstGroupAt.lt_count`: there are enough opening parentheses for a group that is too deep.
* `left_length_lt_of_stopsAt`: a higher limit lets reading get further.
* `DepthThreshold`: what it means that a number is the threshold of a text.
* `exists_depthThreshold`: every text has one. If the text is a filter, it is how deep its groups
  nest.
-/

namespace FilterQuery

open Text

/-! ## Groups on the way -/

namespace Groups

variable {groups : Groups}

/-- A character opens no more than one group, and only where it is an opening parenthesis outside of
quoted values. -/
theorem opened_pass (groups : Groups) (c : Char) :
    (groups.pass c).opened ≤ groups.opened ∨
      c = '(' ∧ groups.quoted = false ∧ (groups.pass c).opened = groups.opened + 1 := by
  rw [pass]
  split
  · exact .inl (Nat.le_refl _)
  · split
    · exact .inl (Nat.le_refl _)
    · next hquoted =>
      split
      · next hopen => exact .inr ⟨hopen, Bool.eq_false_iff.mpr hquoted, rfl⟩
      · split
        · exact .inl (Nat.sub_le _ _)
        · exact .inl (Nat.le_refl _)

theorem opened_along_le (groups : Groups) (text : List Char) :
    (groups.along text).opened ≤ groups.opened + text.count '(' := by
  induction text generalizing groups with
  | nil => exact Nat.le_refl _
  | cons c text ih =>
    have hrest := ih (groups.pass c)
    rw [along_cons]
    rcases groups.opened_pass c with hle | ⟨rfl, -, hopened⟩
    · have hcount : text.count '(' ≤ (c :: text).count '(' := List.count_le_count_cons
      omega
    · rw [List.count_cons_self]
      omega

end Groups

/-- Of two places in a text, the one with less text behind it has more text in front of it. -/
theorem byteLength_lt_of_length_lt {before rest before' rest' : List Char}
    (htext : before ++ rest = before' ++ rest') (hlt : rest'.length < rest.length) :
    byteLength before < byteLength before' := by
  rcases List.append_eq_append_iff.mp htext with ⟨between, rfl, rfl⟩ | ⟨between, rfl, rfl⟩
  · have hne : byteLength between ≠ 0 := by
      rw [Ne, byteLength_eq_zero_iff]
      rintro rfl
      exact Nat.lt_irrefl _ hlt
    rw [byteLength_append]
    omega
  · rw [List.length_append] at hlt
    omega

theorem FirstGroupAt.lt_count {depth : Nat} {before rest : List Char}
    (h : FirstGroupAt depth before rest) : depth < (before ++ rest).count '(' := by
  have hopened := Groups.start.opened_along_le before
  obtain ⟨inside, rfl⟩ := List.head?_eq_some_iff.mp h.opens
  have hdepth : (Groups.start.along before).opened = depth := h.opened
  have hstart : Groups.start.opened = 0 := rfl
  rw [List.count_append, List.count_cons_self]
  omega

/-! ## The threshold -/

/-- The result of reading a text under a depth limit, all other settings being the same. -/
def Settings.resultAt (settings : Settings) (input : String) (limit : Nat) :
    Except SyntaxError Filter :=
  ((settings.withMaxDepth limit).parse input).result

/-- The number `n` is the threshold of a text, and `outcome` is what becomes of the text from there
on. -/
structure DepthThreshold (settings : Settings) (input : String) (n : Nat) (outcome : Outcome) :
    Prop where
  /-- The threshold is at most the number of opening parentheses. -/
  le_count : n ≤ input.toList.count '('
  /-- From the threshold on the limit does not matter. -/
  above : ∀ limit, n ≤ limit → (settings.withMaxDepth limit).parse input = outcome
  /-- Below the threshold reading stops at the first group that is too deep. -/
  below : ∀ limit, limit < n → ∃ before rest, input.toList = before ++ rest ∧
    FirstGroupAt limit before rest ∧ settings.resultAt input limit =
      .error ⟨.nestingTooDeep, byteLength before,
        "at most " ++ toString limit ++ " nested parentheses"⟩
  /-- Below the threshold, a higher limit lets reading get further: to a later group, or in the end
  to the error that there is from the threshold on. -/
  increasing : ∀ limit limit' error error', limit < n → limit < limit' →
    settings.resultAt input limit = .error error →
    settings.resultAt input limit' = .error error' → error.position < error'.position
  /-- The threshold of a filter is how deep its groups nest. -/
  deepest : ∀ filter, outcome.result = .ok filter → n = (groupsOf input.toList).deepest

section Threshold

variable {settings : Settings} {text : List Char}

/-- The depth limit stops reading the text. -/
def StopsAt (settings : Settings) (text : List Char) (limit : Nat) : Prop :=
  ∃ rest log, wholeText (settings.withMaxDepth limit) text = .failed ⟨.tooDeep limit, rest⟩ log

theorem not_stopsAt_count (settings : Settings) (text : List Char) :
    ¬StopsAt settings text (text.count '(') := by
  rintro ⟨rest, log, hfailed⟩
  obtain ⟨before, htext, hfirst⟩ := firstGroupAt_of_tooDeep hfailed
  have hlt := hfirst.lt_count
  rw [← htext] at hlt
  exact Nat.lt_irrefl _ hlt

theorem wholeText_of_not_stopsAt {limit limit' : Nat} (h : ¬StopsAt settings text limit)
    (hle : limit ≤ limit') : wholeText (settings.withMaxDepth limit') text =
      wholeText (settings.withMaxDepth limit) text := by
  have hlowered : Lowered limit (wholeText (settings.withMaxDepth limit) text)
    (wholeText (settings.withMaxDepth limit') text) := wholeText_lowered hle text
  rcases hlowered with hsame | ⟨rest, log, hfailed, -⟩
  · exact hsame.symm
  · exact absurd ⟨rest, log, hfailed⟩ h

/-- A text has a least limit that does not stop reading it. -/
theorem exists_least_not_stopsAt (settings : Settings) (text : List Char) :
    ∃ n, n ≤ text.count '(' ∧ ¬StopsAt settings text n ∧
      ∀ limit, limit < n → StopsAt settings text limit := by
  classical
  have hex : ∃ limit, ¬StopsAt settings text limit := ⟨_, not_stopsAt_count settings text⟩
  exact ⟨Nat.find hex, Nat.find_min' hex (not_stopsAt_count settings text), Nat.find_spec hex,
    fun limit hlt => not_not.mp (Nat.find_min hex hlt)⟩

/-- Where a limit stops reading, a higher limit lets it pass. -/
theorem left_length_lt_of_stopsAt {limit limit' : Nat} {rest : List Char} {log : Log}
    (h : wholeText (settings.withMaxDepth limit) text = .failed ⟨.tooDeep limit, rest⟩ log)
    (hlt : limit < limit') :
    (wholeText (settings.withMaxDepth limit') text).left.length < rest.length := by
  have hlowered : Lowered limit (wholeText (settings.withMaxDepth limit) text)
    (wholeText (settings.withMaxDepth limit') text) := wholeText_lowered (Nat.le_of_lt hlt) text
  rcases hlowered with hsame | ⟨rest', log', hfailed, hleft⟩
  · -- The same fault under both limits would be at two depths at once.
    obtain ⟨before, -, htext, -, -, hopened⟩ := wholeText_justified h
    obtain ⟨before', -, htext', -, -, hopened'⟩ := wholeText_justified (hsame.symm.trans h)
    obtain rfl := List.append_cancel_right (htext.symm.trans htext')
    have hlimits : limit = limit' := hopened.symm.trans hopened'
    exact absurd hlimits (Nat.ne_of_lt hlt)
  · cases h.symm.trans hfailed
    exact hleft

/-- The limit that the groups of a filter need does not stop reading it. -/
theorem Denotes.not_stopsAt {n : Nat} {filter : Filter} (h : Denotes n filter text) :
    ¬StopsAt settings text n := by
  rintro ⟨rest, log, hfailed⟩
  cases hfailed.symm.trans (wholeText_eq_done h (Nat.le_refl n))

variable {input : String} {limit : Nat}
  (hlength : ∀ limit, settings.maxLength = some limit → input.utf8ByteSize ≤ limit)

include hlength

theorem resultAt_of_stopsAt (h : StopsAt settings input.toList limit) :
    ∃ before rest, input.toList = before ++ rest ∧ FirstGroupAt limit before rest ∧
      settings.resultAt input limit = .error ⟨.nestingTooDeep, byteLength before,
        "at most " ++ toString limit ++ " nested parentheses"⟩ := by
  obtain ⟨rest, log, hfailed⟩ := h
  obtain ⟨before, htext, hfirst⟩ := firstGroupAt_of_tooDeep hfailed
  have hparse : (settings.withMaxDepth limit).parse input = _ := parse_of_fits hlength
  refine ⟨before, rest, htext, hfirst, ?_⟩
  rw [Settings.resultAt, hparse, hfailed, ← offset_append before rest, ← htext]
  rfl

/-- Of two errors, the one under the limit that stops reading is reported first. -/
theorem position_lt_of_stopsAt {limit' : Nat} {error error' : SyntaxError}
    (hstops : StopsAt settings input.toList limit) (hlt : limit < limit')
    (h : settings.resultAt input limit = .error error)
    (h' : settings.resultAt input limit' = .error error') : error.position < error'.position := by
  obtain ⟨rest, log, hfailed⟩ := hstops
  have hfault : ∀ {limit error}, settings.resultAt input limit = .error error →
      ∃ fault log, wholeText (settings.withMaxDepth limit) input.toList = .failed fault log ∧
        error = fault.errorIn input.toList :=
    fun h => exists_fault_of_fits hlength h
  obtain ⟨fault, log₁, hwhole, rfl⟩ := hfault h
  obtain ⟨fault', log₂, hwhole', rfl⟩ := hfault h'
  cases hfailed.symm.trans hwhole
  have hleft := left_length_lt_of_stopsAt hfailed hlt
  rw [hwhole'] at hleft
  obtain ⟨before, htext, hposition⟩ := exists_position_errorIn hwhole
  obtain ⟨before', htext', hposition'⟩ := exists_position_errorIn hwhole'
  rw [hposition, hposition']
  exact byteLength_lt_of_length_lt (htext.symm.trans htext') hleft

end Threshold

/-- Every text that is not too long has a depth limit that is its threshold. -/
theorem exists_depthThreshold (settings : Settings) (input : String)
    (hlength : ∀ limit, settings.maxLength = some limit → input.utf8ByteSize ≤ limit) :
    ∃ n outcome, DepthThreshold settings input n outcome := by
  obtain ⟨n, hcount, hn, hbelow⟩ := exists_least_not_stopsAt settings input.toList
  have hparse : ∀ limit, (settings.withMaxDepth limit).parse input =
      .ofReply input (wholeText (settings.withMaxDepth limit) input.toList) :=
    fun limit => parse_of_fits hlength
  refine ⟨n, (settings.withMaxDepth n).parse input, hcount, fun limit hle => ?_,
    fun limit hlt => resultAt_of_stopsAt hlength (hbelow limit hlt),
    fun limit limit' error error' hlt => position_lt_of_stopsAt hlength (hbelow limit hlt),
    fun filter h => ?_⟩
  · rw [hparse, hparse, wholeText_of_not_stopsAt hn hle]
  · obtain ⟨m, hm, hdenotes⟩ := denotes_of_parse h
    rw [hdenotes.deepest_groupsOf]
    exact Nat.le_antisymm (Nat.le_of_not_lt fun hlt => hdenotes.not_stopsAt (hbelow m hlt)) hm

/-- A text that is no filter, with a quoted parenthesis among the three that it has. -/
theorem exists_depthThreshold_unfinished :
    (∀ limit, (⟨9, some 20, true⟩ : Settings).maxLength = some limit →
      "((é:'(' or +".utf8ByteSize ≤ limit) ∧
    ∃ n outcome, DepthThreshold ⟨9, some 20, true⟩ "((é:'(' or +" n outcome := by
  have hlength : ∀ limit, (⟨9, some 20, true⟩ : Settings).maxLength = some limit →
      "((é:'(' or +".utf8ByteSize ≤ limit := by
    intro limit h
    obtain rfl := Option.some.inj h
    decide
  exact ⟨hlength, exists_depthThreshold _ _ hlength⟩

end FilterQuery
