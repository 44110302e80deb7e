import FilterQuery.Proofs.Faults
import FilterQuery.SyntaxError.Context

/-!
# The marker stands below the failing character

An error that is shown in its text takes three lines, or four with the advice, if the text takes one
line. The marker stands below the character at which reading failed.

* `OneLine`, `linesOf`: texts without a line feed, and the lines of a text.
* `Cause.quotes`: what the wording of an error repeats of the text. Everything else in the wording
  takes one line (`Cause.oneLine_expected`).
* `read_quotes`, `wholeText_quotes`: the readers repeat nothing but characters of the text.
* `linesOf_inContext`: the lines of an error that is shown.
* `parse_error_inContext`: these lines for an error of a text, and what stands above the marker.
-/

namespace FilterQuery

open Text

/-! ## Lines -/

/-- The text takes one line. -/
def OneLine (text : String) : Prop :=
  '\n' ∉ text.toList

instance (text : String) : Decidable (OneLine text) :=
  inferInstanceAs (Decidable (¬_))

/-- The lines of a text, which line feeds separate. -/
def linesOf (text : String) : List String :=
  (text.split '\n').toList.map (·.copy)

theorem OneLine.append {text more : String} (h : OneLine text) (hmore : OneLine more) :
    OneLine (text ++ more) := by
  rw [OneLine, String.toList_append, List.mem_append]
  exact not_or.mpr ⟨h, hmore⟩

theorem oneLine_char {c : Char} (h : c ≠ '\n') : OneLine c.toString := by
  simpa [OneLine, Char.toString] using h.symm

theorem oneLine_toString (n : Nat) : OneLine (toString n) := by
  rw [OneLine, Nat.toString_eq_repr, Nat.toList_repr]
  exact fun h => absurd (Nat.isDigit_of_mem_toDigits (by decide) (by decide) h) (by decide)

theorem toList_spaces (n : Nat) : ("".pushn ' ' n).toList = List.replicate n ' ' := by
  rw [String.pushn_eq_repeat_push]
  induction n with
  | zero => rfl
  | succ n ih => rw [Nat.repeat, String.toList_push, ih, ← List.replicate_succ']

theorem oneLine_spaces (n : Nat) : OneLine ("".pushn ' ' n) := by
  rw [OneLine, toList_spaces, List.mem_replicate]
  exact fun h => absurd h.2 (by decide)

theorem linesOf_intercalate {lines : List String} (h : ∀ line ∈ lines, OneLine line)
    (hne : lines ≠ []) : linesOf ("\n".intercalate lines) = lines := by
  have hsplit := String.toList_split_intercalate h
  rwa [if_neg hne] at hsplit

/-! ## The wording of errors -/

/-- The characters of the text that the wording of an error repeats. -/
def Cause.quotes : Cause → List Char
  | noSeparator name => name.toList
  | trailing found | trailingInGroup found => [found]
  | noOperand found => found.toList
  | _ => []

theorem Cause.oneLine_expected {cause : Cause} (position : Nat) (h : '\n' ∉ cause.quotes) :
    OneLine (cause.expected position) := by
  have hfixed : ∀ cause ∈ [openQuote, noQuote, noValue, noKey, strayClosing, noOperand none],
      OneLine (expected 0 cause) := by
    decide +kernel
  have hquoted : ∀ {before behind : String} {c : Char}, OneLine before → c ≠ '\n' →
      OneLine behind → OneLine (before ++ c.toString ++ behind) := fun hbefore hc hbehind =>
    (hbefore.append (oneLine_char hc)).append hbehind
  cases cause with
  | openQuote => exact hfixed openQuote (by decide)
  | noQuote => exact hfixed noQuote (by decide)
  | noValue => exact hfixed noValue (by decide)
  | noKey => exact hfixed noKey (by decide)
  | strayClosing => exact hfixed strayClosing (by decide)
  | noSeparator name => exact OneLine.append (.append (by decide +kernel) h) (by decide +kernel)
  | noTagName polarity =>
    exact hquoted (by decide +kernel) (by cases polarity <;> decide) (by decide +kernel)
  | openGroup span => exact .append (by decide +kernel) (oneLine_toString _)
  | trailing found | trailingInGroup found =>
    exact hquoted (by decide +kernel) (fun hc => h (by simp [quotes, hc])) (by decide +kernel)
  | noOperand found =>
    cases found with
    | none => exact hfixed (noOperand none) (by decide)
    | some found =>
      exact hquoted (by decide +kernel) (fun hc => h (by simp [quotes, hc])) (by decide +kernel)
  | tooDeep limit | tooLong limit =>
    exact .append (.append (by decide +kernel) (oneLine_toString _)) (by decide +kernel)

/-! ## What the readers repeat of a text -/

theorem skipBlanks_subset (text : List Char) : skipBlanks text ⊆ text :=
  (List.dropWhile_suffix isBlank).subset

section Read

variable {settings : Settings}

theorem LeafFault.quotes_subset {text : List Char} {fault : Fault} (h : LeafFault text fault) :
    fault.cause.quotes ⊆ text := by
  cases h with
  | nothing | noTagName _ _ | noValue _ _ _ | openQuote _ _ => exact List.nil_subset _
  | other rest => simp [Cause.quotes]
  | noSeparator => simp [Cause.quotes]

theorem closeGroup_quotes {opening : List Char} {inner : Filter} {state : State} {fault : Fault}
    {log : Log} (h : closeGroup opening inner state = .failed fault log) :
    fault.cause.quotes ⊆ state.unread := by
  unfold closeGroup at h
  split at h
  · cases h
  · next found rest _ hskip =>
    have hfound : found ∈ state.unread :=
      skipBlanks_subset state.unread (hskip ▸ List.mem_cons_self)
    split at h
    · cases h
      simpa [Cause.quotes] using hfound
    · cases h
      exact List.nil_subset _
  · cases h
    exact List.nil_subset _

theorem endOfText_quotes {inner : Filter} {state : State} {fault : Fault} {log : Log}
    (h : endOfText inner state = .failed fault log) : fault.cause.quotes ⊆ state.unread := by
  rcases hskip : skipBlanks state.unread with _ | ⟨c, rest⟩
  · cases (endOfText_nil hskip).symm.trans h
  · cases (endOfText_cons hskip).symm.trans h
    have hc : c ∈ state.unread := skipBlanks_subset state.unread (hskip ▸ List.mem_cons_self)
    split
    · exact List.nil_subset _
    · simpa [Cause.quotes] using hc

/-- What a reader leaves is part of what it started with. -/
theorem unread_subset_of_read {part : Part} {state next : State} {filter : Filter} {log : Log}
    (h : read settings part state = .done filter next log) : next.unread ⊆ state.unread := by
  obtain ⟨-, n, -, derivation⟩ := read_sound.1 part state h
  obtain ⟨consumed, k, htext, -⟩ := derivation.along
  rw [htext]
  exact List.subset_append_right consumed next.unread

/-- The wording of a fault repeats characters that the reader has found in its text. -/
theorem read_quotes :
    (∀ part state, ∀ {fault log}, read settings part state = .failed fault log →
      fault.cause.quotes ⊆ state.unread) ∧
    ∀ connective left state, ∀ {fault log},
      readOn settings connective left state = .failed fault log →
      fault.cause.quotes ⊆ state.unread := by
  apply read_induction
  case operand =>
    rintro ⟨text, depth⟩ ih fault log h
    by_cases hgroup : text.head? = some '('
    · obtain ⟨inside, rfl⟩ := List.head?_eq_some_iff.mp hgroup
      have hinside : skipBlanks inside ⊆ '(' :: inside :=
        List.Subset.trans (skipBlanks_subset inside) (List.subset_cons_self '(' inside)
      rw [read_group] at h
      split at h
      · cases h
        exact List.nil_subset _
      · rcases Reply.andThen_eq_failed_iff.mp h with
          hfailed | ⟨inner, next, earlier, own, hdone, hclose, -⟩
        · exact List.Subset.trans (ih inside rfl hfailed) hinside
        · have hnext := List.Subset.trans (closeGroup_quotes hclose) (unread_subset_of_read hdone)
          exact List.Subset.trans hnext hinside
    · exact (leafFault_of_operand hgroup h).quotes_subset
  case chain =>
    intro connective state ih ihOn fault log h
    rw [read_chain] at h
    rcases Reply.andThen_eq_failed_iff.mp h with hleft | ⟨left, next, earlier, own, hleft, hmore, -⟩
    · exact ih hleft
    · exact List.Subset.trans (ihOn left next earlier hleft hmore) (unread_subset_of_read hleft)
  case more =>
    intro connective left state ih fault log h
    rcases hjoint : afterJoint? connective state.unread with _ | unread
    · rw [readOn_none hjoint] at h
      cases h
    · rw [readOn_some hjoint] at h
      obtain ⟨ihMember, ihOn⟩ := ih unread hjoint
      obtain ⟨between, htext, -⟩ := (joint_of_afterJoint? hjoint).1.plain
      have hunread : unread ⊆ state.unread := htext ▸ List.subset_append_right between unread
      rcases Reply.andThen_eq_failed_iff.mp h with
        hright | ⟨right, next, earlier, own, hright, hmore, -⟩
      · exact List.Subset.trans (ihMember hright) hunread
      · have hnext := List.Subset.trans (ihOn right next earlier hright hmore)
          (unread_subset_of_read hright)
        exact List.Subset.trans hnext hunread

theorem wholeText_quotes {text : List Char} {fault : Fault} {log : Log}
    (h : wholeText settings text = .failed fault log) : fault.cause.quotes ⊆ text := by
  rcases Reply.andThen_eq_failed_iff.mp h with hread | ⟨filter, next, earlier, own, hread, hend, -⟩
  · exact List.Subset.trans (read_quotes.1 (.chain .or) _ hread) (skipBlanks_subset text)
  · have hread : read settings (.chain .or) ⟨skipBlanks text, 0⟩ = _ := hread
    have hnext : next.unread ⊆ skipBlanks text := unread_subset_of_read hread
    exact List.Subset.trans (List.Subset.trans (endOfText_quotes hend) hnext)
      (skipBlanks_subset text)

end Read

/-! ## Errors that are shown -/

/-- Every error of a text has a cause, and stands at the start of a character or at the end. The
wording of the cause repeats nothing but characters of the text. -/
theorem exists_cause {settings : Settings} {input : String} {error : SyntaxError}
    (h : (settings.parse input).result = .error error) :
    ∃ cause before rest, error = Cause.errorAt cause (byteLength before) ∧
      input.toList = before ++ rest ∧ cause.quotes ⊆ input.toList := by
  rw [Settings.parse] at h
  split at h
  · next limit _ =>
    obtain rfl := Except.error.inj h
    exact ⟨.tooLong limit, [], input.toList, rfl, rfl, List.nil_subset _⟩
  · rcases hwhole : wholeText settings input.toList with ⟨filter, next, log⟩ | ⟨fault, log⟩
    · rw [hwhole] at h
      cases h
    · rw [hwhole] at h
      obtain rfl := Except.error.inj h
      obtain ⟨before, htext, hposition⟩ := exists_position_errorIn hwhole
      refine ⟨fault.cause, before, fault.unread, ?_, htext, wholeText_quotes hwhole⟩
      rw [Fault.errorIn, ← hposition, Fault.errorIn, Cause.position_errorAt]

theorem oneLine_hint (kind : ErrorKind) : ∀ hint ∈ kind.hint, OneLine hint := by
  cases kind <;> decide +kernel

/-- The lines of an error that stands at the start of a character. -/
theorem linesOf_inContext {error : SyntaxError} {input : String} {before rest : List Char}
    (hinput : OneLine input) (hexpected : OneLine error.expected)
    (htext : input.toList = before ++ rest) (hposition : error.position = byteLength before) :
    linesOf (error.inContext input) =
      ["filter syntax error: " ++ error.expected, "  " ++ input,
        "".pushn ' ' (2 + before.length) ++ "^"] ++ (error.hint.map ("hint: " ++ ·)).toList := by
  have hshown : error.inContext input = "\n".intercalate
      (["filter syntax error: " ++ error.expected, "  " ++ input,
        "".pushn ' ' (2 + before.length) ++ "^"] ++ (error.hint.map ("hint: " ++ ·)).toList) := by
    have hcolumn : column input.toList error.position = before.length := by
      rw [htext, hposition, column_byteLength]
    have hindent : "".pushn ' ' (2 + before.length) = "  " ++ "".pushn ' ' before.length := by
      rw [← String.toList_inj, String.toList_append, toList_spaces, toList_spaces, Nat.add_comm]
      rfl
    rw [SyntaxError.inContext, hcolumn, hindent]
    cases error.hint <;> simp [String.ext_iff]
  rw [hshown]
  refine linesOf_intercalate ?_ (by simp)
  simp only [List.cons_append, List.nil_append, List.mem_cons]
  rintro line (rfl | rfl | rfl | hline)
  · exact .append (by decide +kernel) hexpected
  · exact .append (by decide +kernel) hinput
  · exact .append (oneLine_spaces _) (by decide +kernel)
  · obtain ⟨hint, hhint, rfl⟩ := Option.map_eq_some_iff.mp (Option.mem_toList.mp hline)
    exact .append (by decide +kernel) (oneLine_hint error.kind hint hhint)

/-- The error of a text that takes one line is shown in three lines, or in four with the advice: its
wording, the text behind two blanks, and the marker behind as many blanks as there are characters in
front of the one above it. That one is where `rest` starts, at the byte offset of the error. -/
theorem parse_error_inContext (settings : Settings) (input : String) (error : SyntaxError)
    (hinput : OneLine input) (h : (settings.parse input).result = .error error) :
    OneLine error.expected ∧
      ∃ before rest, input.toList = before ++ rest ∧ error.position = byteLength before ∧
        fromByte? input.toList error.position = some rest ∧
        linesOf (error.inContext input) =
          ["filter syntax error: " ++ error.expected, "  " ++ input,
            "".pushn ' ' (2 + before.length) ++ "^"] ++ (error.hint.map ("hint: " ++ ·)).toList ∧
        ("  " ++ input).toList.drop (2 + before.length) = rest := by
  obtain ⟨cause, before, rest, rfl, htext, hquotes⟩ := exists_cause h
  have hexpected : OneLine (cause.expected (byteLength before)) :=
    cause.oneLine_expected _ fun hmem => hinput (hquotes hmem)
  refine ⟨hexpected, before, rest, htext, rfl, ?_,
    linesOf_inContext hinput hexpected htext rfl, ?_⟩
  · rw [htext]
    exact fromByte?_append before rest
  · rw [String.toList_append, htext]
    simp [Nat.add_comm 2]

/-- A key that the wording repeats, in front of a place that two letters of two bytes move. -/
theorem parse_error_inContext_accented :
    let input := "é:1 (ünder)"
    let error : SyntaxError := ⟨.missingSeparator, 12, "expected ':' after key 'ünder'"⟩
    OneLine input ∧ (Settings.parse {} input).result = .error error ∧ OneLine error.expected ∧
      ∃ before rest, input.toList = before ++ rest ∧ error.position = byteLength before ∧
        fromByte? input.toList error.position = some rest ∧
        linesOf (error.inContext input) =
          ["filter syntax error: " ++ error.expected, "  " ++ input,
            "".pushn ' ' (2 + before.length) ++ "^"] ++ (error.hint.map ("hint: " ++ ·)).toList ∧
        ("  " ++ input).toList.drop (2 + before.length) = rest := by
  intro input error
  have hinput : OneLine input := by decide +kernel
  have hresult : (Settings.parse {} input).result = .error error := by
    have hwhole : wholeText {} input.toList = .failed ⟨.noSeparator "ünder", [')']⟩
        [.pair (.userDefined "é") "1"] := by
      decide +kernel
    have herror : Fault.errorIn ⟨.noSeparator "ünder", [')']⟩ input.toList = error := by
      decide +kernel
    rw [← herror]
    exact parse_of_failed (by nofun) hwhole
  exact ⟨hinput, hresult, parse_error_inContext {} input error hinput hresult⟩

end FilterQuery
