import FilterQuery.Proofs.Completion
import FilterQuery.Proofs.SideBySide

/-!
# Grouping a whole text

A text in parentheses is read as it is without them, if one more group may be open. The end of the
group stands where the end of the text stood, so also the errors are the same, one byte further on.
Only what is reported for parentheses without a partner may change: the new ones may be the
partners.

* `Denotes.group`: a text that is written for a filter is written for it as a group.
* `wholeText_grouped`: a fault of the text is a fault of the group.
* `parse_grouped`: so parentheses around a whole text change neither the filter nor the error.
-/

namespace FilterQuery

open Text

/-- A whole text in parentheses is an operand. -/
theorem Denotes.group {n : Nat} {filter : Filter} {text : List Char} (h : Denotes n filter text)
    (rest : List Char) : Derives .operand (n + 1) filter ('(' :: (text ++ ')' :: rest)) rest := by
  cases h with
  | @intro before text behind hbefore derivation hbehind =>
    obtain ⟨consumed, rfl, -, hconsumed⟩ := derivation.followed
    have hreplaces : Replaces [] (')' :: rest) := replaces_of_stops (stops_closing rest)
    have hlonger := hreplaces.append behind
    rw [List.append_nil] at hlonger
    simpa using Derives.group hbefore (hconsumed hlonger) hbehind

theorem Denotes.grouped {n : Nat} {filter : Filter} {text : List Char} (h : Denotes n filter text) :
    Denotes (n + 1) filter ('(' :: (text ++ [')'])) :=
  .intro blanks_nil (.single (.single (h.group []))) blanks_nil

theorem sideBySide_closing : SideBySide (')' ∈ [')']) (GoesOn [')']) :=
  sideBySide_goesOn (.inr ⟨[], rfl⟩) (by decide)

/-- A closing parenthesis is not skipped. -/
theorem eq_append_of_goesOn {text text' : List Char} (h : GoesOn [')'] text text') :
    text' = text ++ [')'] := by
  obtain ⟨behind, hsuffix, hbehind, rfl⟩ := h
  rcases List.suffix_cons_iff.mp hsuffix with rfl | hnil
  · rfl
  · obtain rfl := List.suffix_nil.mp hnil
    cases hbehind

section Grouping

variable {settings : Settings} {text : List Char} {fault : Fault} {log : Log}

/-- A part fails with its first operand. -/
theorem read_of_operand_failed {state : State}
    (h : read settings .operand state = .failed fault log) (part : Part) :
    read settings part state = .failed fault log := by
  have hconjunction : read settings (.chain .and) state = .failed fault log := by
    rw [read_chain, Connective.member, h, Reply.failed_andThen]
  match part with
  | .operand => exact h
  | .chain .and => exact hconjunction
  | .chain .or => rw [read_chain, Connective.member, hconjunction, Reply.failed_andThen]

/-- A whole text fails with the operand that it starts with. -/
theorem wholeText_of_operand_failed (hstops : Stops isBlank text)
    (h : read settings .operand ⟨text, 0⟩ = .failed fault log) :
    wholeText settings text = .failed fault log := by
  have hdisjunction : disjunction settings ⟨text, 0⟩ = .failed fault log :=
    read_of_operand_failed h (.chain .or)
  rw [wholeText, skipBlanks_of_stops hstops, hdisjunction, Reply.failed_andThen]

/-- What the readers do behind the text, at the end of the group and at the end of the text. -/
theorem closeGroup_of_endOfText_failed {opening : List Char} {inner : Filter} {state : State}
    (h : endOfText inner state = .failed fault log)
    (hkind : fault.cause.kind ≠ .unmatchedParenthesis) (depth : Nat) :
    ∃ fault', closeGroup opening inner ⟨state.unread ++ [')'], depth⟩ = .failed fault' log ∧
      fault'.cause.kind = fault.cause.kind ∧ fault'.unread = fault.unread ++ [')'] := by
  rcases hskip : skipBlanks state.unread with _ | ⟨c, rest⟩
  · cases (endOfText_nil hskip).symm.trans h
  · cases (endOfText_cons hskip).symm.trans h
    by_cases hc : c = ')'
    · exact absurd (congrArg Cause.kind (if_pos hc)) hkind
    · have hmore : skipBlanks (state.unread ++ [')']) = c :: (rest ++ [')']) := by
        rw [skipBlanks_extend (by simp [hskip]), hskip]
        rfl
      obtain ⟨cause, hclose, hcause⟩ := closeGroup_failed opening inner
        ⟨state.unread ++ [')'], depth⟩ (by simp [hmore, hc])
      refine ⟨_, hclose, ?_, hmore⟩
      rw [hcause, if_pos (by simp [hmore]), if_neg hc]
      rfl

/-- What stands in a group fails the whole text, whether it fails itself or the group does not end
behind it. -/
theorem wholeText_group_failed {inside : List Char} (hlimit : 0 < settings.maxDepth)
    (h : (read settings (.chain .or) ⟨skipBlanks inside, 1⟩).andThen (closeGroup ('(' :: inside)) =
      .failed fault log) :
    wholeText settings ('(' :: inside) = .failed fault log := by
  have hoperand : read settings .operand ⟨'(' :: inside, 0⟩ = .failed fault log := by
    rw [read_group, if_neg (Nat.not_le.mpr hlimit)]
    exact h
  exact wholeText_of_operand_failed (stops_cons.mpr isBlank_parenthesis.1) hoperand

/-- A fault of a text is a fault of the text in parentheses, unless it is about parentheses. -/
theorem wholeText_grouped (h : wholeText settings text = .failed fault log)
    (hkind : fault.cause.kind ≠ .unmatchedParenthesis) :
    ∃ fault', wholeText (settings.withMaxDepth (settings.maxDepth + 1)) ('(' :: (text ++ [')'])) =
        .failed fault' log ∧
      fault'.cause.kind = fault.cause.kind ∧ fault'.unread = fault.unread ++ [')'] := by
  have hinner : Agrees (')' ∈ [')']) (GoesOn [')']) 1
      (read settings (.chain .or) ⟨skipBlanks text, 0⟩)
      (read (settings.withMaxDepth (settings.maxDepth + 1)) (.chain .or)
        ⟨skipBlanks (text ++ [')']), 1⟩) :=
    (read_agrees sideBySide_closing).1 (.chain .or) ⟨skipBlanks text, 0⟩
      (sideBySide_closing.skip (goesOn_append [')'] text))
  rcases Reply.andThen_eq_failed_iff.mp h with hread | ⟨inner, next, earlier, own, hread, hend, rfl⟩
  · -- The fault lies in the disjunction, which is the same in the group.
    replace hread : read settings (.chain .or) ⟨skipBlanks text, 0⟩ = .failed fault log := hread
    rw [hread] at hinner
    obtain ⟨fault', hread', hsame, hunread⟩ := hinner.exists_failed fun _ => hkind
    refine ⟨fault', wholeText_group_failed (Nat.succ_pos _) ?_, hsame, eq_append_of_goesOn hunread⟩
    rw [hread', Reply.failed_andThen]
  · -- The disjunction ends early, so the group does not end behind it.
    replace hread : read settings (.chain .or) ⟨skipBlanks text, 0⟩ = .done inner next earlier :=
      hread
    rw [hread] at hinner
    obtain ⟨unread, hread', hunread⟩ := hinner.exists_done
    obtain rfl := eq_append_of_goesOn hunread
    obtain ⟨fault', hclose, hsame, hplace⟩ := closeGroup_of_endOfText_failed hend hkind _
    refine ⟨fault', wholeText_group_failed (Nat.succ_pos _) ?_, hsame, hplace⟩
    rw [hread', Reply.done_andThen, hclose]
    rfl

end Grouping

/-- A text in parentheses is parsed under the next higher depth limit as it is without them: as the
same filter, or with an error of the same kind, one byte further on. -/
theorem parse_grouped (limit : Nat) (report : Bool) (input : String) :
    (∀ filter, (Settings.parse ⟨limit, none, report⟩ input).result = .ok filter →
      (Settings.parse ⟨limit + 1, none, report⟩ ("(" ++ input ++ ")")).result = .ok filter) ∧
    ∀ error, (Settings.parse ⟨limit, none, report⟩ input).result = .error error →
      error.kind ≠ .unmatchedParenthesis →
      ∃ error', (Settings.parse ⟨limit + 1, none, report⟩ ("(" ++ input ++ ")")).result =
          .error error' ∧
        error'.kind = error.kind ∧ error'.position = error.position + 1 := by
  have hinput : ("(" ++ input ++ ")").toList = '(' :: (input.toList ++ [')']) := by
    simp
  constructor
  · intro filter h
    obtain ⟨n, hn, hdenotes⟩ := denotes_of_parse h
    refine parse_of_denotes (by nofun) (Nat.succ_le_succ hn) ?_
    rw [hinput]
    exact hdenotes.grouped
  · intro error h hkind
    obtain ⟨fault, log, hwhole, rfl⟩ := exists_fault_of_fits (by nofun) h
    rw [Fault.kind_errorIn] at hkind
    obtain ⟨fault', hgrouped, hsame, hunread⟩ := wholeText_grouped hwhole hkind
    obtain ⟨before, hbefore, hposition⟩ := exists_position_errorIn hwhole
    rw [← hinput] at hgrouped
    have hplace : ("(" ++ input ++ ")").toList = ('(' :: before) ++ fault'.unread := by
      rw [hinput, hunread, hbefore]
      simp
    refine ⟨_, parse_of_failed (by nofun) hgrouped, ?_, ?_⟩
    · rw [Fault.kind_errorIn, Fault.kind_errorIn, hsame]
    · rw [hposition, hplace, Fault.position_errorIn, byteLength_cons, Nat.add_comm]
      rfl

/-- A filter with blanks around it and a group in it, and a text with a value that ends nowhere. -/
theorem parse_grouped_openQuote :
    let filter : Filter := .both (.either (.ofPair "a" "1") (.ofPair "b" "2")) (.tag .excludes "x")
    let error : SyntaxError := ⟨.unterminatedQuote, 9, "unterminated quoted string"⟩
    ((Settings.parse ⟨1, none, true⟩ " (a:1 or b:2) -x ").result = .ok filter ∧
      (Settings.parse ⟨2, none, true⟩ ("(" ++ " (a:1 or b:2) -x " ++ ")")).result =
        .ok filter) ∧
    (Settings.parse ⟨1, none, true⟩ "(é:1) b:')").result = .error error ∧
      error.kind ≠ .unmatchedParenthesis ∧
      ∃ error', (Settings.parse ⟨2, none, true⟩ ("(" ++ "(é:1) b:')" ++ ")")).result =
          .error error' ∧
        error'.kind = .unterminatedQuote ∧ error'.position = 10 := by
  intro filter error
  have hfilter : (Settings.parse ⟨1, none, true⟩ " (a:1 or b:2) -x ").result = .ok filter := by
    have hwhole : wholeText ⟨1, none, true⟩ " (a:1 or b:2) -x ".toList =
        .done filter ⟨[], 0⟩ (filter.readLog ⟨1, none, true⟩) := by
      decide +kernel
    rw [parse_of_fits (by nofun), hwhole]
    rfl
  have herror : (Settings.parse ⟨1, none, true⟩ "(é:1) b:')").result = .error error := by
    have hwhole : wholeText ⟨1, none, true⟩ "(é:1) b:')".toList =
        .failed ⟨.openQuote, [quoteMark, ')']⟩ [.pair (.userDefined "é") "1"] := by
      decide +kernel
    have hplace : Fault.errorIn ⟨.openQuote, [quoteMark, ')']⟩ "(é:1) b:')".toList = error := by
      decide +kernel
    rw [parse_of_failed (by nofun) hwhole, hplace]
  have hkind : error.kind ≠ .unmatchedParenthesis := by decide
  exact ⟨⟨hfilter, (parse_grouped 1 true _).1 filter hfilter⟩, herror, hkind,
    (parse_grouped 1 true _).2 error herror hkind⟩

end FilterQuery
