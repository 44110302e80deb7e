import FilterQuery.Filter.Keys
import FilterQuery.Proofs.Acceptance

/-!
# The records of a filter

Reading a filter leaves the records of its leaves, with a report in front of each pair whose key
looks misspelled.

* `Log.traces`, `Log.hints`, `Log.withoutHints`: parts of a log.
* `HintsInPlace`: a report of a misspelled key stands in front of the pair with that key, and
  nowhere else. `hintsInPlace_readLog`: this holds for the log of a filter.
* `Filter.traces_readLog`, `Filter.hints_readLog`: the leaves and the reports in that log.
* `leaf_or_fault`, `read_leaf`: what the reader of operands does where no group starts.
-/

namespace FilterQuery

/-! ## Records of leaves -/

/-- The records that tell of leaves. -/
def Log.traces (log : Log) : Log :=
  log.filter (·.level == .trace)

/-- The reports of misspelled keys. -/
def Log.hints (log : Log) : Log :=
  log.filter Record.isMisspelling

/-- The records other than the reports of misspelled keys. -/
def Log.withoutHints (log : Log) : Log :=
  log.filter (!·.isMisspelling)

section Log

variable (log log' : Log)

@[simp]
theorem Log.traces_append : Log.traces (log ++ log') = log.traces ++ log'.traces :=
  List.filter_append log log'

@[simp]
theorem Log.hints_append : Log.hints (log ++ log') = log.hints ++ log'.hints :=
  List.filter_append log log'

@[simp]
theorem Log.withoutHints_append :
    Log.withoutHints (log ++ log') = log.withoutHints ++ log'.withoutHints :=
  List.filter_append log log'

end Log

/-- Whether the record tells that reading failed. -/
def Record.isFailure : Record → Bool
  | failure _ _ => true
  | _ => false

/-- The report of a key that looks misspelled. -/
def Key.hint? (key : Key) : Option Record :=
  key.suggestion.map (Record.misspelling key.name)

theorem pairLog_eq (settings : Settings) (key : Key) (value : String) :
    pairLog settings key value =
      (if settings.suggestKeys then key.hint?.toList else []) ++ [.pair key value] := by
  rw [pairLog, Key.hint?]
  cases key.suggestion <;> rfl

/-- A log in which a report stands in front of the record of every pair whose key looks misspelled,
and nowhere else. -/
structure HintsInPlace (settings : Settings) (log : Log) : Prop where
  /-- There are reports only if they are asked for, and each is followed by the record of a pair
  with the key that it names. -/
  followed : ∀ {before after name suggestion},
    log = before ++ .misspelling name suggestion :: after →
    settings.suggestKeys = true ∧ ∃ key value after', after = .pair key value :: after' ∧
      key.name = name ∧ key.suggestion = some suggestion
  /-- The record of a pair whose key looks misspelled stands behind a report. -/
  preceded : settings.suggestKeys = true → ∀ {before after key value suggestion},
    log = before ++ .pair key value :: after → key.suggestion = some suggestion →
    ∃ before', before = before' ++ [.misspelling key.name suggestion]

section HintsInPlace

variable {settings : Settings} {log log' : Log}

theorem HintsInPlace.append (h : HintsInPlace settings log) (h' : HintsInPlace settings log') :
    HintsInPlace settings (log ++ log') where
  followed := by
    intro before after name suggestion heq
    rcases List.append_eq_append_iff.mp heq with ⟨middle, rfl, hlog'⟩ | ⟨middle, rfl, hmiddle⟩
    · exact h'.followed hlog'
    · rcases middle with _ | ⟨record, middle⟩
      · have hlog' : log' = [] ++ .misspelling name suggestion :: after := hmiddle.symm
        exact h'.followed hlog'
      · obtain ⟨rfl, rfl⟩ := List.cons.inj hmiddle
        obtain ⟨hon, key, value, after', rfl, hkey⟩ := h.followed rfl
        exact ⟨hon, key, value, after' ++ log', rfl, hkey⟩
  preceded := by
    intro hon before after key value suggestion heq hsuggestion
    rcases List.append_eq_append_iff.mp heq with ⟨middle, rfl, hlog'⟩ | ⟨middle, rfl, hmiddle⟩
    · obtain ⟨before', rfl⟩ := h'.preceded hon hlog' hsuggestion
      exact ⟨log ++ before', (List.append_assoc _ _ _).symm⟩
    · rcases middle with _ | ⟨record, middle⟩
      · have hlog' : log' = [] ++ .pair key value :: after := hmiddle.symm
        obtain ⟨before', hnil⟩ := h'.preceded hon hlog' hsuggestion
        simp at hnil
      · obtain ⟨rfl, rfl⟩ := List.cons.inj hmiddle
        exact h.preceded hon rfl hsuggestion

theorem hintsInPlace_nil : HintsInPlace settings [] where
  followed h := by simp at h
  preceded _ _ _ _ _ _ h := by simp at h

/-- A record that is no report, and needs none in front of it. -/
theorem hintsInPlace_singleton {record : Record} (hhint : record.isMisspelling = false)
    (hpair : settings.suggestKeys = true → ∀ key value, record = .pair key value →
      key.suggestion = none) : HintsInPlace settings [record] where
  followed := by
    intro before after name suggestion h
    have hmem : .misspelling name suggestion ∈ [record] := h ▸ by simp
    rw [← List.mem_singleton.mp hmem] at hhint
    cases hhint
  preceded := by
    intro hon before after key value suggestion h hsuggestion
    have hmem : .pair key value ∈ [record] := h ▸ by simp
    rw [hpair hon key value (List.mem_singleton.mp hmem).symm] at hsuggestion
    cases hsuggestion

/-- A report with the record of its pair. -/
theorem hintsInPlace_hinted {key : Key} {value suggestion : String}
    (hon : settings.suggestKeys = true) (hsuggestion : key.suggestion = some suggestion) :
    HintsInPlace settings [.misspelling key.name suggestion, .pair key value] where
  followed := by
    rintro (_ | ⟨first, _ | ⟨second, before⟩⟩) after name suggestion' h
    · cases h
      exact ⟨hon, key, value, [], rfl, rfl, hsuggestion⟩
    · cases h
    · simp at h
  preceded := by
    rintro - (_ | ⟨first, _ | ⟨second, before⟩⟩) after key' value' suggestion' h hsuggestion'
    · cases h
    · cases h
      rw [hsuggestion] at hsuggestion'
      cases hsuggestion'
      exact ⟨[], rfl⟩
    · simp at h

theorem hintsInPlace_pairLog (key : Key) (value : String) :
    HintsInPlace settings (pairLog settings key value) := by
  rw [pairLog]
  split
  · next hon =>
    rcases hsuggestion : key.suggestion with _ | suggestion
    · refine hintsInPlace_singleton rfl fun _ key' value' h => ?_
      cases h
      exact hsuggestion
    · exact hintsInPlace_hinted hon hsuggestion
  · next hoff => exact hintsInPlace_singleton rfl fun hon => absurd hon hoff

theorem hintsInPlace_readLog (filter : Filter) :
    HintsInPlace settings (filter.readLog settings) := by
  induction filter with
  | pair key value => exact hintsInPlace_pairLog key value
  | tag polarity name => exact hintsInPlace_singleton rfl nofun
  | binary left connective right ihLeft ihRight => exact ihLeft.append ihRight

theorem hintsInPlace_flatMap (leaves : List Filter) :
    HintsInPlace settings (leaves.flatMap (Filter.readLog settings)) := by
  induction leaves with
  | nil => exact hintsInPlace_nil
  | cons leaf leaves ih => exact (hintsInPlace_readLog leaf).append ih

end HintsInPlace

/-! ## The log of a filter -/

section ReadLog

variable (settings : Settings)

theorem traces_pairLog (key : Key) (value : String) :
    Log.traces (pairLog settings key value) = [.pair key value] := by
  rw [pairLog_eq, Key.hint?]
  cases settings.suggestKeys <;> cases key.suggestion <;> rfl

theorem hints_pairLog (key : Key) (value : String) :
    Log.hints (pairLog settings key value) =
      if settings.suggestKeys then key.hint?.toList else [] := by
  rw [pairLog_eq, Key.hint?]
  cases settings.suggestKeys <;> cases key.suggestion <;> rfl

theorem withoutHints_pairLog (key : Key) (value : String) :
    Log.withoutHints (pairLog settings key value) = [.pair key value] := by
  rw [pairLog_eq, Key.hint?]
  cases settings.suggestKeys <;> cases key.suggestion <;> rfl

theorem Filter.traces_readLog (filter : Filter) :
    (Log.traces (filter.readLog settings)).map Record.leaf? = filter.leaves.map some := by
  induction filter with
  | pair key value =>
    rw [readLog, traces_pairLog]
    rfl
  | tag polarity name => rfl
  | binary left connective right ihLeft ihRight =>
    rw [readLog, Log.traces_append, List.map_append, ihLeft, ihRight, leaves, List.map_append]

theorem Filter.hints_readLog (filter : Filter) :
    Log.hints (filter.readLog settings) =
      if settings.suggestKeys then filter.keys.filterMap Key.hint? else [] := by
  induction filter with
  | pair key value =>
    rcases hhint : key.hint? with _ | hint <;> simp [readLog, hints_pairLog, keys, hhint]
  | tag polarity name =>
    cases settings.suggestKeys <;> rfl
  | binary left connective right ihLeft ihRight =>
    rw [readLog, Log.hints_append, ihLeft, ihRight, keys]
    cases settings.suggestKeys <;> simp

theorem Filter.withoutHints_readLog (filter : Filter) (on : Bool) :
    Log.withoutHints (filter.readLog { settings with suggestKeys := on }) =
      Log.withoutHints (filter.readLog settings) := by
  induction filter with
  | pair key value =>
    rw [readLog, withoutHints_pairLog, readLog, withoutHints_pairLog]
  | tag polarity name => rfl
  | binary left connective right ihLeft ihRight =>
    rw [readLog, Log.withoutHints_append, ihLeft, ihRight, readLog, Log.withoutHints_append]

theorem Filter.isFailure_readLog (filter : Filter) :
    ∀ record ∈ filter.readLog settings, record.isFailure = false := by
  induction filter with
  | pair key value =>
    rw [readLog, pairLog_eq, Key.hint?]
    cases settings.suggestKeys <;> cases key.suggestion <;> simp [Record.isFailure]
  | tag polarity name => simp [readLog, Record.isFailure]
  | binary left connective right ihLeft ihRight =>
    intro record hrecord
    rcases List.mem_append.mp hrecord with hleft | hright
    · exact ihLeft record hleft
    · exact ihRight record hright

end ReadLog

/-! ## Operands outside of groups -/

section Leaf

variable {settings : Settings} {text rest : List Char}

/-- Where no group starts there is a leaf or a fault, whatever the settings. -/
theorem leaf_or_fault (h : text.head? ≠ some '(') :
    (∃ leaf rest, Derives .operand 0 leaf text rest) ∨ ∃ fault, LeafFault text fault := by
  rcases hreply : read {} .operand ⟨text, 0⟩ with ⟨leaf, next, log⟩ | ⟨fault, log⟩
  · obtain ⟨-, n, -, derivation⟩ := read_sound.1 _ _ hreply
    refine .inl ⟨leaf, next.unread, ?_⟩
    cases derivation with
    | pair hname hvalue => exact .pair hname hvalue
    | tag hname hstops => exact .tag hname hstops
    | group => simp at h
  · exact .inr ⟨fault, leafFault_of_operand h hreply⟩

/-- A part without groups that is no chain is a leaf. -/
theorem leaves_of_derives {leaf : Filter} (h : Derives .operand 0 leaf text rest) :
    leaf.leaves = [leaf] := by
  cases h <;> rfl

theorem read_leaf {leaf : Filter} (h : Derives .operand 0 leaf text rest) (depth : Nat) :
    read settings .operand ⟨text, depth⟩ = .done leaf ⟨rest, depth⟩ (leaf.readLog settings) := by
  rw [h.read_eq (Nat.zero_le _) nofun, finish, Reply.after, List.append_nil]

end Leaf

end FilterQuery
