import FilterQuery.Proofs.Faults
import FilterQuery.Proofs.Following

/-!
# Reading two texts side by side

Two texts are read in the same way if what the readers look at in one of them is found in the other
one too, wherever they have got to. What they look at are single characters, blanks and quoted
values.

* `SideBySide`: a relation between texts for which this holds.
* `SideBySide.valueAt`, `leafFault`, `afterJoint?`: so values, faults of leaves and joints are found
  in both texts.
* `Agrees`: the reply on the second text, beside the reply on the first one.
* `read_agrees`: the readers agree on related texts. If `shift` more groups are open in the second
  text, the depth limit must be higher by as many.
-/

namespace FilterQuery

open Text

/-- A relation between texts that the readers keep. If it is `forgiving`, a parenthesis may close a
group in the second text that nothing closes in the first one. -/
structure SideBySide (forgiving : Prop) (related : List Char → List Char → Prop) : Prop where
  /-- What is behind the blanks is related. -/
  skip : ∀ {text text'}, related text text' → related (skipBlanks text) (skipBlanks text')
  /-- Blanks stand where blanks stand. -/
  blank : ∀ {c text text'}, isBlank c = true → related (c :: text) text' →
    ∃ c' rest', text' = c' :: rest' ∧ isBlank c' = true
  /-- All other characters stand where they stand, but a quote has to be looked at with what it
  begins. -/
  cons : ∀ {c text text'}, isBlank c = false → c ≠ quoteMark → related (c :: text) text' →
    ∃ rest', text' = c :: rest' ∧ related text rest'
  /-- A quoted value stands where it stands. -/
  quoted : ∀ {body rest text'}, quoteMark ∉ body →
    related (quoteMark :: (body ++ quoteMark :: rest)) text' →
    ∃ rest', text' = quoteMark :: (body ++ quoteMark :: rest') ∧ related rest rest'
  /-- A quote that stays open does so in both texts. -/
  openQuote : ∀ {body text'}, quoteMark ∉ body → related (quoteMark :: body) text' →
    ∃ body', text' = quoteMark :: body' ∧ quoteMark ∉ body'
  /-- Where the first text is over, nothing is joined in the second one. -/
  nil : ∀ {text'}, related [] text' → Closing (skipBlanks text')
  /-- A closing parenthesis is found in the second text if there is one in the first. -/
  closing : ∀ {text text'}, related text text' → ')' ∈ text → ')' ∈ text'
  /-- There is none in the second text only, or this is forgiven. -/
  closing_back : ¬forgiving → ∀ {text text'}, related text text' → ')' ∈ text' → ')' ∈ text

/-! ## Ways in which texts start -/

/-- Skipping blanks takes up text exactly if there is a blank at the start. -/
theorem length_skipBlanks_lt_iff {text : List Char} :
    (skipBlanks text).length < text.length ↔ ¬Stops isBlank text := by
  constructor
  · intro hlt hstops
    rw [skipBlanks_of_stops hstops] at hlt
    exact Nat.lt_irrefl _ hlt
  · intro hstops
    refine length_dropWhile_lt fun hnil => hstops ?_
    rw [← List.takeWhile_append_dropWhile (p := isBlank) (l := text), hnil]
    exact stops_dropWhile isBlank text

theorem leafFault_of_isBlank {c : Char} (h : isBlank c = true) (rest : List Char) :
    LeafFault (c :: rest) ⟨.noOperand (some c), c :: rest⟩ := by
  refine .other rest (plain_of_isBlank h).1 ?_ ?_
  · rcases hsign : Polarity.ofSign? c with _ | polarity
    · rfl
    · rw [Polarity.ofSign?_eq_some_iff.mp hsign, isBlank_sign] at h
      cases h
  · apply Bool.eq_false_iff.mpr
    intro hkey
    rw [isBlank_of_isKeyChar hkey] at h
    cases h

theorem leafFault_of_closing {text : List Char} (h : Closing (skipBlanks text)) :
    ∃ found, LeafFault text ⟨.noOperand found, text⟩ := by
  rcases text with _ | ⟨c, text⟩
  · exact ⟨none, .nothing⟩
  · refine ⟨some c, ?_⟩
    by_cases hc : isBlank c = true
    · exact leafFault_of_isBlank hc text
    · rw [skipBlanks_of_stops (stops_cons.mpr (Bool.eq_false_iff.mpr hc))] at h
      rcases h with h | ⟨rest, h⟩ <;> cases h
      exact .other text (by decide) rfl (by decide +kernel)

theorem Filter.readLog_withMaxDepth (settings : Settings) (limit : Nat) (filter : Filter) :
    filter.readLog (settings.withMaxDepth limit) = filter.readLog settings := by
  induction filter with
  | pair | tag => rfl
  | binary left connective right ihLeft ihRight => rw [readLog, ihLeft, ihRight, readLog]

namespace SideBySide

variable {forgiving : Prop} {related : List Char → List Char → Prop}
  (h : SideBySide forgiving related)

include h

/-! ## Characters -/

/-- A character that is no blank stands where it stands. -/
theorem head {c : Char} {text text' : List Char} (hc : isBlank c = false)
    (hrelated : related (c :: text) text') : ∃ rest', text' = c :: rest' := by
  by_cases hquote : c = quoteMark
  · subst hquote
    by_cases hbody : quoteMark ∈ text
    · obtain ⟨body, rest, rfl, hnot⟩ := List.eq_append_cons_of_mem hbody
      obtain ⟨rest', rfl, -⟩ := h.quoted hnot hrelated
      exact ⟨_, rfl⟩
    · obtain ⟨body', rfl, -⟩ := h.openQuote hbody hrelated
      exact ⟨body', rfl⟩
  · obtain ⟨rest', rfl, -⟩ := h.cons hc hquote hrelated
    exact ⟨rest', rfl⟩

/-- What stands in the second text, and is neither a blank nor a closing parenthesis, stands in the
first one. -/
theorem head_back {c : Char} {text rest' : List Char} (hrelated : related text (c :: rest'))
    (hc : isBlank c = false) (hclosing : c ≠ ')') : text.head? = some c := by
  rcases text with _ | ⟨d, text⟩
  · have hnil := h.nil hrelated
    rw [skipBlanks_of_stops (stops_cons.mpr hc)] at hnil
    rcases hnil with hnil | ⟨rest, hnil⟩ <;> cases hnil
    exact absurd rfl hclosing
  · by_cases hd : isBlank d = true
    · obtain ⟨c', rest, heq, hblank⟩ := h.blank hd hrelated
      cases heq
      rw [hc] at hblank
      cases hblank
    · obtain ⟨rest, heq⟩ := h.head (Bool.eq_false_iff.mpr hd) hrelated
      cases heq
      rfl

theorem replaces {text text' : List Char} (hrelated : related text text') :
    Replaces text text' := by
  intro c hc hvalue
  obtain ⟨rest', rfl⟩ := List.head?_eq_some_iff.mp hc
  exact h.head_back hrelated (isBlank_of_isValueChar hvalue) (plain_of_isValueChar hvalue).2.1

/-- A run of value characters stands where it stands. -/
theorem run {run rest text' : List Char} (hrun : ∀ c ∈ run, isValueChar c = true)
    (hrelated : related (run ++ rest) text') :
    ∃ rest', text' = run ++ rest' ∧ related rest rest' := by
  induction run generalizing text' with
  | nil => exact ⟨text', rfl, hrelated⟩
  | cons c run ih =>
    obtain ⟨hc, hrun⟩ := List.forall_mem_cons.mp hrun
    obtain ⟨text', rfl, htail⟩ :=
      h.cons (isBlank_of_isValueChar hc) (plain_of_isValueChar hc).2.2 hrelated
    obtain ⟨rest', rfl, hrest⟩ := ih hrun htail
    exact ⟨rest', rfl, hrest⟩

/-- A run of value characters in the second text stands in the first one. -/
theorem run_back {run text rest' : List Char} (hrun : ∀ c ∈ run, isValueChar c = true)
    (hrelated : related text (run ++ rest')) :
    ∃ rest, text = run ++ rest ∧ related rest rest' := by
  induction run generalizing text with
  | nil => exact ⟨text, rfl, hrelated⟩
  | cons c run ih =>
    obtain ⟨hc, hrun⟩ := List.forall_mem_cons.mp hrun
    have hblank := isBlank_of_isValueChar hc
    obtain ⟨-, hclosing, hquote⟩ := plain_of_isValueChar hc
    obtain ⟨text, rfl⟩ := List.head?_eq_some_iff.mp (h.head_back hrelated hblank hclosing)
    obtain ⟨tail, heq, htail⟩ := h.cons hblank hquote hrelated
    obtain rfl := List.cons.inj heq |>.2
    obtain ⟨rest, rfl, hrest⟩ := ih hrun htail
    exact ⟨rest, rfl, hrest⟩

/-! ## Values and faults -/

theorem stops {p : Char → Bool} (hp : ∀ c, p c = true → isValueChar c = true)
    {text text' : List Char} (hstops : Stops p text) (hrelated : related text text') :
    Stops p text' :=
  (h.replaces hrelated).stops hp hstops

theorem head?_quoteMark {text text' : List Char} (hquote : text.head? ≠ some quoteMark)
    (hrelated : related text text') : text'.head? ≠ some quoteMark := by
  intro hhead
  obtain ⟨rest', rfl⟩ := List.head?_eq_some_iff.mp hhead
  exact hquote (h.head_back hrelated isBlank_quoteMark (by decide))

/-- A key and its separator stand where they stand. -/
theorem separator {name rest text' : List Char} (hname : Run isKeyChar name)
    (hrelated : related (name ++ ':' :: rest) text') :
    ∃ rest', text' = name ++ ':' :: rest' ∧ related rest rest' := by
  rw [List.append_cons] at hrelated
  obtain ⟨rest', rfl, hrest⟩ := h.run hname.isValueChar_separator hrelated
  exact ⟨rest', (List.append_cons _ _ _).symm, hrest⟩

theorem valueAt {value : String} {text rest text' : List Char} (hvalue : ValueAt value text rest)
    (hrelated : related text text') :
    ∃ rest', ValueAt value text' rest' ∧ related rest rest' := by
  cases hvalue with
  | quoted hbody =>
    obtain ⟨rest', rfl, hrest⟩ := h.quoted hbody hrelated
    exact ⟨rest', .quoted hbody, hrest⟩
  | bare hrun hstops =>
    obtain ⟨rest', rfl, hrest⟩ := h.run hrun.all hrelated
    exact ⟨rest', .bare hrun (h.stops (fun _ h => h) hstops hrest), hrest⟩

/-- A leaf stands where it stands. -/
theorem leaf {n : Nat} {filter : Filter} {text rest text' : List Char}
    (hleaf : Derives .operand n filter text rest) (hgroup : text.head? ≠ some '(')
    (hrelated : related text text') :
    n = 0 ∧ ∃ rest', Derives .operand 0 filter text' rest' ∧ related rest rest' := by
  cases hleaf with
  | pair hname hvalue =>
    obtain ⟨text', rfl, htext⟩ := h.separator hname hrelated
    obtain ⟨rest', hvalue', hrest⟩ := h.valueAt hvalue htext
    exact ⟨rfl, rest', .pair hname hvalue', hrest⟩
  | @tag polarity name rest hname hstops =>
    obtain ⟨text', rfl, htext⟩ := h.cons (isBlank_sign polarity) (plain_sign polarity).2.2 hrelated
    obtain ⟨rest', rfl, hrest⟩ :=
      h.run (fun c hc => isValueChar_of_isTagChar (hname.all c hc)) htext
    exact ⟨rfl, rest', .tag hname (h.stops (fun _ => isValueChar_of_isTagChar) hstops hrest), hrest⟩
  | group _ _ _ => exact absurd rfl hgroup

/-- A fault of a leaf is of the same kind in the second text. -/
theorem leafFault {text text' : List Char} {fault : Fault} (hfault : LeafFault text fault)
    (hrelated : related text text') :
    ∃ fault', LeafFault text' fault' ∧ fault'.cause.kind = fault.cause.kind ∧
      related fault.unread fault'.unread := by
  cases hfault with
  | nothing =>
    obtain ⟨found, hfault⟩ := leafFault_of_closing (h.nil hrelated)
    exact ⟨_, hfault, rfl, hrelated⟩
  | @other c rest hgroup hsign hkey =>
    by_cases hc : isBlank c = true
    · obtain ⟨c', rest', rfl, hblank⟩ := h.blank hc hrelated
      exact ⟨_, leafFault_of_isBlank hblank rest', rfl, hrelated⟩
    · obtain ⟨rest', rfl⟩ := h.head (Bool.eq_false_iff.mpr hc) hrelated
      exact ⟨_, .other rest' hgroup hsign hkey, rfl, hrelated⟩
  | noTagName polarity hstops =>
    obtain ⟨rest', rfl, hrest⟩ :=
      h.cons (isBlank_sign polarity) (plain_sign polarity).2.2 hrelated
    exact ⟨_, .noTagName polarity (h.stops (fun _ => isValueChar_of_isTagChar) hstops hrest), rfl,
      hrest⟩
  | noSeparator hname hstops =>
    obtain ⟨rest', rfl, hrest⟩ := h.run
      (fun c hc => isValueChar_of_isKeyChar (hname.all c hc)) hrelated
    refine ⟨_, .noSeparator hname (h.stops ?_ hstops hrest), rfl, hrest⟩
    intro c hc
    rcases Bool.or_eq_true_iff.mp hc with hc | hc
    · exact isValueChar_of_isKeyChar hc
    · simp [isValueChar, hc]
  | noValue hname hquote hstops =>
    obtain ⟨rest', rfl, hrest⟩ := h.separator hname hrelated
    exact ⟨_, .noValue hname (h.head?_quoteMark hquote hrest) (h.stops (fun _ h => h) hstops hrest),
      rfl, hrest⟩
  | openQuote hname hbody =>
    obtain ⟨rest', rfl, hrest⟩ := h.separator hname hrelated
    obtain ⟨body', rfl, hbody'⟩ := h.openQuote hbody hrest
    exact ⟨_, .openQuote hname hbody', rfl, hrest⟩

/-! ## Joints -/

theorem continuesWord_eq {text text' : List Char} (hrelated : related text text') :
    continuesWord text' = continuesWord text := by
  cases hword : continuesWord text with
  | false => exact (h.replaces hrelated).continuesWord hword
  | true =>
    rcases text with _ | ⟨c, text⟩
    · cases hword
    · have hvalue := isValueChar_of_continues hword
      obtain ⟨rest', rfl⟩ := h.head (isBlank_of_isValueChar hvalue) hrelated
      exact hword

theorem afterWord? (connective : Connective) {text text' : List Char}
    (hrelated : related text text') :
    Option.Rel related (FilterQuery.afterWord? connective.word.toList text)
      (FilterQuery.afterWord? connective.word.toList text') := by
  have hword : ∀ c ∈ connective.word.toList, isValueChar c = true := fun c hc =>
    isValueChar_of_isKeyChar (all_isKeyChar_word connective c hc)
  rcases hfound : FilterQuery.afterWord? connective.word.toList text with _ | rest
  · rcases hfound' : FilterQuery.afterWord? connective.word.toList text' with _ | rest'
    · exact .none
    · obtain ⟨rfl, hends⟩ := afterWord?_eq_some_iff.mp hfound'
      obtain ⟨rest, rfl, hrest⟩ := h.run_back hword hrelated
      rw [h.continuesWord_eq hrest] at hends
      cases (afterWord?_eq_some_iff.mpr ⟨rfl, hends⟩).symm.trans hfound
  · obtain ⟨rfl, hends⟩ := afterWord?_eq_some_iff.mp hfound
    obtain ⟨rest', rfl, hrest⟩ := h.run hword hrelated
    rw [← h.continuesWord_eq hrest] at hends
    rw [afterWord?_eq_some_iff.mpr ⟨rfl, hends⟩]
    exact .some hrest

theorem afterConnective? (connective : Connective) {text text' : List Char}
    (hrelated : related text text') :
    Option.Rel related (FilterQuery.afterConnective? connective text)
      (FilterQuery.afterConnective? connective text') := by
  have hword := h.afterWord? connective (h.skip hrelated)
  rw [FilterQuery.afterConnective?, FilterQuery.afterConnective?]
  generalize FilterQuery.afterWord? _ (skipBlanks text) = found at hword
  generalize FilterQuery.afterWord? _ (skipBlanks text') = found' at hword
  cases hword with
  | none => exact .none
  | some hrest => exact .some (h.skip hrest)

/-- An operand starts in the second text if and only if one does so in the first one. -/
theorem startsOperand_eq {text text' : List Char} (hrelated : related text text') :
    startsOperand text' = startsOperand text := by
  apply Bool.eq_iff_iff.mpr
  constructor
  · intro hstart
    rcases startsOperand_iff.mp hstart with
      ⟨inside, rfl⟩ | ⟨polarity, rest, rfl⟩ | ⟨name, rest, hname, rfl⟩
    · obtain ⟨inside', rfl⟩ := List.head?_eq_some_iff.mp
        (h.head_back hrelated isBlank_parenthesis.1 (by decide))
      exact startsOperand_group inside'
    · obtain ⟨rest', rfl⟩ := List.head?_eq_some_iff.mp
        (h.head_back hrelated (isBlank_sign polarity) (plain_sign polarity).2.1)
      exact startsOperand_sign polarity rest'
    · rw [List.append_cons] at hrelated
      obtain ⟨rest', rfl, -⟩ := h.run_back hname.isValueChar_separator hrelated
      rw [← List.append_cons]
      exact startsOperand_key hname rest'
  · intro hstart
    rcases startsOperand_iff.mp hstart with
      ⟨inside, rfl⟩ | ⟨polarity, rest, rfl⟩ | ⟨name, rest, hname, rfl⟩
    · obtain ⟨inside', rfl⟩ := h.head isBlank_parenthesis.1 hrelated
      exact startsOperand_group inside'
    · obtain ⟨rest', rfl⟩ := h.head (isBlank_sign polarity) hrelated
      exact startsOperand_sign polarity rest'
    · obtain ⟨rest', rfl, -⟩ := h.separator hname hrelated
      exact startsOperand_key hname rest'

theorem stops_isBlank {text text' : List Char} (hne : text ≠ []) (hrelated : related text text') :
    Stops isBlank text' ↔ Stops isBlank text := by
  obtain ⟨c, text, rfl⟩ := List.exists_cons_of_ne_nil hne
  cases hc : isBlank c with
  | false =>
    obtain ⟨rest', rfl⟩ := h.head hc hrelated
    simp [hc]
  | true =>
    obtain ⟨c', rest', rfl, hc'⟩ := h.blank hc hrelated
    simp [hc, hc']

theorem afterJoint? (connective : Connective) {text text' : List Char}
    (hrelated : related text text') :
    Option.Rel related (FilterQuery.afterJoint? connective text)
      (FilterQuery.afterJoint? connective text') := by
  cases connective with
  | or => exact h.afterConnective? .or hrelated
  | and =>
    have hword := h.afterConnective? .and hrelated
    have hskip := h.skip hrelated
    simp only [FilterQuery.afterJoint?]
    generalize FilterQuery.afterConnective? .and text = found at hword
    generalize FilterQuery.afterConnective? .and text' = found' at hword
    cases hword with
    | some hrest => exact .some hrest
    | none =>
      have hsame : (skipBlanks text').length < text'.length ∧
            startsOperand (skipBlanks text') = true ↔
          (skipBlanks text).length < text.length ∧ startsOperand (skipBlanks text) = true := by
        rw [h.startsOperand_eq hskip, length_skipBlanks_lt_iff, length_skipBlanks_lt_iff]
        refine and_congr_left fun hstart => not_congr (h.stops_isBlank ?_ hrelated)
        rintro rfl
        cases hstart
      dsimp only
      split
      · next hblanks =>
        rw [if_pos (hsame.mpr hblanks)]
        exact .some hskip
      · next hblanks =>
        rw [if_neg fun hblanks' => hblanks (hsame.mp hblanks')]
        exact .none

/-- Unless it is forgiven, the same closing parentheses are looked for and found in both texts. -/
theorem head?_closing {text text' : List Char} (hhead : text.head? ≠ some ')')
    (hstops : Stops isBlank text) (hforgiven : ¬(forgiving ∧ ')' ∉ text))
    (hrelated : related text text') : (')' ∈ text' ↔ ')' ∈ text) ∧ text'.head? ≠ some ')' := by
  have hmem : ')' ∈ text' ↔ ')' ∈ text := by
    refine ⟨fun hmem => ?_, h.closing hrelated⟩
    by_cases hforgiving : forgiving
    · exact Decidable.not_not.mp fun hnot => hforgiven ⟨hforgiving, hnot⟩
    · exact h.closing_back hforgiving hrelated hmem
  refine ⟨hmem, fun hhead' => ?_⟩
  obtain ⟨c, text, rfl⟩ :=
    List.exists_cons_of_ne_nil (List.ne_nil_of_mem (hmem.mp (List.mem_of_head? hhead')))
  obtain ⟨rest', rfl⟩ := h.head (stops_cons.mp hstops) hrelated
  exact hhead hhead'

end SideBySide

/-! ## Replies -/

/-- The reply of a reader on the second text, where `shift` more groups are open, beside its reply
on the first one. The records are the same. -/
inductive Agrees (forgiving : Prop) (related : List Char → List Char → Prop) (shift : Nat) :
    Reply Filter → Reply Filter → Prop
  | done {value : Filter} {next : State} {text' : List Char} {log : Log} :
      related next.unread text' →
      Agrees forgiving related shift (.done value next log)
        (.done value ⟨text', next.depth + shift⟩ log)
  | failed {fault fault' : Fault} {log : Log} : fault'.cause.kind = fault.cause.kind →
      related fault.unread fault'.unread →
      Agrees forgiving related shift (.failed fault log) (.failed fault' log)
  | forgiven {fault : Fault} {log : Log} {reply' : Reply Filter} : forgiving →
      fault.cause.kind = .unmatchedParenthesis →
      Agrees forgiving related shift (.failed fault log) reply'

section Replies

variable {forgiving : Prop} {related : List Char → List Char → Prop} {shift : Nat}
  {first first' : Reply Filter}

theorem Agrees.refl (reply : Reply Filter) : Agrees False Eq 0 reply reply := by
  cases reply with
  | done value next log => exact .done rfl
  | failed fault log => exact .failed rfl rfl

theorem Agrees.exists_done {value : Filter} {next : State} {log : Log}
    (h : Agrees forgiving related shift (.done value next log) first') :
    ∃ text', first' = .done value ⟨text', next.depth + shift⟩ log ∧ related next.unread text' := by
  cases h with
  | done hrelated => exact ⟨_, rfl, hrelated⟩

theorem Agrees.exists_failed {fault : Fault} {log : Log}
    (h : Agrees forgiving related shift (.failed fault log) first')
    (hforgiven : forgiving → fault.cause.kind ≠ .unmatchedParenthesis) :
    ∃ fault', first' = .failed fault' log ∧ fault'.cause.kind = fault.cause.kind ∧
      related fault.unread fault'.unread := by
  cases h with
  | failed hkind hrelated => exact ⟨_, rfl, hkind, hrelated⟩
  | forgiven hforgiving hkind => exact absurd hkind (hforgiven hforgiving)

theorem Agrees.after (h : Agrees forgiving related shift first first') (earlier : Log) :
    Agrees forgiving related shift (first.after earlier) (first'.after earlier) := by
  cases h with
  | done hrelated => exact .done hrelated
  | failed hkind hrelated => exact .failed hkind hrelated
  | forgiven hforgiving hkind => exact .forgiven hforgiving hkind

theorem Agrees.andThen {second second' : Filter → State → Reply Filter}
    (h : Agrees forgiving related shift first first')
    (hsecond : ∀ value next log text', first = .done value next log →
      related next.unread text' → Agrees forgiving related shift (second value next)
        (second' value ⟨text', next.depth + shift⟩)) :
    Agrees forgiving related shift (first.andThen second) (first'.andThen second') := by
  cases h with
  | done hrelated => exact (hsecond _ _ _ _ rfl hrelated).after _
  | failed hkind hrelated => exact .failed hkind hrelated
  | forgiven hforgiving hkind => exact .forgiven hforgiving hkind

end Replies

section Read

variable {forgiving : Prop} {related : List Char → List Char → Prop} {settings : Settings}
  {shift : Nat} (h : SideBySide forgiving related)

include h

/-- The readers of leaves agree, whatever the depth limits are. -/
theorem SideBySide.operand_agrees {limit depth : Nat} {text text' : List Char}
    (hgroup : text.head? ≠ some '(') (hrelated : related text text') :
    Agrees forgiving related shift (read settings .operand ⟨text, depth⟩)
      (read (settings.withMaxDepth limit) .operand ⟨text', depth + shift⟩) := by
  rcases hreply : read settings .operand ⟨text, depth⟩ with
    ⟨filter, ⟨rest, depth'⟩, log⟩ | ⟨fault, log⟩
  · obtain ⟨-, n, -, hleaf⟩ := read_sound.1 .operand _ hreply
    obtain ⟨rfl, rest', hleaf', hrest⟩ := h.leaf hleaf hgroup hrelated
    cases (hleaf.read_eq (Nat.zero_le _) nofun).symm.trans hreply
    rw [hleaf'.read_eq (Nat.zero_le _) nofun, Filter.readLog_withMaxDepth]
    exact (Agrees.done hrest).after _
  · have hfault := leafFault_of_operand hgroup hreply
    obtain ⟨fault', hfault', hkind, hunread⟩ := h.leafFault hfault hrelated
    cases hfault.operand_eq.symm.trans hreply
    have hreply' : read (settings.withMaxDepth limit) .operand ⟨text', depth + shift⟩ = _ :=
      hfault'.operand_eq
    rw [hreply']
    exact .failed hkind hunread

/-- The ends of groups agree. -/
theorem SideBySide.closeGroup_agrees {opening opening' : List Char} {inner : Filter} {state : State}
    {text' : List Char} (hdepth : 0 < state.depth) (hrelated : related state.unread text') :
    Agrees forgiving related shift (closeGroup opening inner state)
      (closeGroup opening' inner ⟨text', state.depth + shift⟩) := by
  have hskip := h.skip hrelated
  by_cases hhead : (skipBlanks state.unread).head? = some ')'
  · obtain ⟨rest, hclosing⟩ := List.head?_eq_some_iff.mp hhead
    rw [hclosing] at hskip
    obtain ⟨rest', hclosing', hrest⟩ := h.cons isBlank_parenthesis.2 (by decide) hskip
    rw [closeGroup_closing hclosing, closeGroup_closing hclosing', Nat.sub_add_comm hdepth]
    exact .done hrest
  · obtain ⟨cause, hclose, hkind⟩ := closeGroup_failed opening inner state hhead
    rw [hclose]
    by_cases hforgiven : forgiving ∧ ')' ∉ skipBlanks state.unread
    · exact .forgiven hforgiven.1 (hkind.trans (if_neg hforgiven.2))
    · obtain ⟨hmem, hhead'⟩ := h.head?_closing hhead (stops_skipBlanks _) hforgiven hskip
      obtain ⟨cause', hclose', hkind'⟩ :=
        closeGroup_failed opening' inner ⟨text', state.depth + shift⟩ hhead'
      rw [hclose']
      refine .failed ?_ hskip
      rw [hkind, hkind']
      simp only [hmem]

/-- The readers agree on texts that are related. -/
theorem read_agrees :
    (∀ part state, ∀ {text'}, related state.unread text' →
      Agrees forgiving related shift (read settings part state)
        (read (settings.withMaxDepth (settings.maxDepth + shift)) part
          ⟨text', state.depth + shift⟩)) ∧
    ∀ connective left state, ∀ {text'}, related state.unread text' →
      Agrees forgiving related shift (readOn settings connective left state)
        (readOn (settings.withMaxDepth (settings.maxDepth + shift)) connective left
          ⟨text', state.depth + shift⟩) := by
  apply read_induction
  case operand =>
    rintro ⟨text, depth⟩ ih text' hrelated
    by_cases hgroup : text.head? = some '('
    · obtain ⟨inside, rfl⟩ := List.head?_eq_some_iff.mp hgroup
      obtain ⟨inside', rfl, hinside⟩ := h.cons isBlank_parenthesis.1 (by decide) hrelated
      have hlimit : (settings.withMaxDepth (settings.maxDepth + shift)).maxDepth ≤ depth + shift ↔
          settings.maxDepth ≤ depth := Nat.add_le_add_iff_right
      rw [read_group, read_group]
      by_cases hdepth : settings.maxDepth ≤ depth
      · rw [if_pos hdepth, if_pos (hlimit.mpr hdepth)]
        exact .failed rfl hrelated
      · rw [if_neg hdepth, if_neg (mt hlimit.mp hdepth), Nat.add_right_comm]
        refine (ih inside rfl (h.skip hinside)).andThen fun inner middle log text' hdone hmiddle =>
          h.closeGroup_agrees ?_ hmiddle
        rw [(read_sound.1 _ _ hdone).1]
        exact Nat.succ_pos depth
    · exact h.operand_agrees hgroup hrelated
  case chain =>
    intro connective state ih ihOn text' hrelated
    rw [read_chain, read_chain]
    exact (ih hrelated).andThen fun left next log text' hdone hnext =>
      ihOn left next log hdone hnext
  case more =>
    intro connective left state ih text' hrelated
    have hjoint := h.afterJoint? connective hrelated
    rw [readOn_eq, readOn_eq]
    dsimp only
    generalize hunread : FilterQuery.afterJoint? connective state.unread = found at hjoint ih
    generalize FilterQuery.afterJoint? connective text' = found' at hjoint
    cases hjoint with
    | none => exact .done hrelated
    | some hunread' =>
      obtain ⟨ihMember, ihOn⟩ := ih _ rfl
      exact (ihMember hunread').andThen fun right next log text' hdone hnext =>
        ihOn right next log hdone hnext

end Read

section WholeText

variable {related : List Char → List Char → Prop} {settings : Settings} {text text' : List Char}
  (h : SideBySide False related)

include h

/-- If nothing is forgiven, the ends of texts agree. -/
theorem SideBySide.endOfText_agrees {inner : Filter} {state : State} {text' : List Char}
    (hrelated : related state.unread text') :
    Agrees False related 0 (endOfText inner state) (endOfText inner ⟨text', state.depth⟩) := by
  have hskip := h.skip hrelated
  rcases hunread : skipBlanks state.unread with _ | ⟨c, rest⟩
  · rw [hunread] at hskip
    have hnil : skipBlanks text' = [] := by
      have hclosing := h.nil hskip
      rw [skipBlanks_of_stops (stops_skipBlanks text')] at hclosing
      rcases hclosing with hnil | ⟨rest, hclosing⟩
      · exact hnil
      · rw [hclosing] at hskip
        cases h.closing_back id hskip List.mem_cons_self
    rw [hnil] at hskip
    rw [endOfText_nil hunread, endOfText_nil hnil]
    exact .done hskip
  · have hc := stops_cons.mp (hunread ▸ stops_skipBlanks state.unread)
    rw [hunread] at hskip
    obtain ⟨rest', hunread'⟩ := h.head hc hskip
    rw [hunread'] at hskip
    rw [endOfText_cons hunread, endOfText_cons hunread']
    exact .failed rfl hskip

/-- If nothing is forgiven, related texts are read in the same way. -/
theorem wholeText_agrees (hrelated : related text text') :
    Agrees False related 0 (wholeText settings text) (wholeText settings text') :=
  ((read_agrees h).1 (.chain .or) ⟨skipBlanks text, 0⟩ (h.skip hrelated)).andThen
    fun _ _ _ _ _ hnext => h.endOfText_agrees hnext

end WholeText

/-! ## Texts that go on -/

/-- The second text goes on with `more` where the first one ends, perhaps without blanks that are
skipped there. -/
def GoesOn (more text text' : List Char) : Prop :=
  ∃ behind, behind <:+ more ∧ skipBlanks behind = skipBlanks more ∧ text' = text ++ behind

theorem goesOn_append (more text : List Char) : GoesOn more text (text ++ more) :=
  ⟨more, List.suffix_refl more, rfl, rfl⟩

/-- What goes on with blanks and perhaps with a closing parenthesis is read side by side. -/
theorem sideBySide_goesOn {more : List Char} (hmore : Closing (skipBlanks more))
    (hquote : quoteMark ∉ more) : SideBySide (')' ∈ more) (GoesOn more) where
  skip := by
    rintro text text' ⟨behind, hsuffix, hbehind, rfl⟩
    by_cases hskip : skipBlanks text = []
    · refine ⟨skipBlanks behind, (List.dropWhile_suffix _).trans hsuffix, ?_, ?_⟩
      · rw [skipBlanks_of_stops (stops_skipBlanks behind), hbehind]
      · rw [skipBlanks_append (blanks_of_skipBlanks hskip), hskip, List.nil_append]
    · exact ⟨behind, hsuffix, hbehind, skipBlanks_extend hskip behind⟩
  blank := by
    rintro c text text' hc ⟨behind, -, -, rfl⟩
    exact ⟨c, text ++ behind, rfl, hc⟩
  cons := by
    rintro c text text' - - ⟨behind, hsuffix, hbehind, rfl⟩
    exact ⟨text ++ behind, rfl, behind, hsuffix, hbehind, rfl⟩
  quoted := by
    rintro body rest text' - ⟨behind, hsuffix, hbehind, rfl⟩
    exact ⟨rest ++ behind, by simp, behind, hsuffix, hbehind, rfl⟩
  openQuote := by
    rintro body text' hbody ⟨behind, hsuffix, -, rfl⟩
    refine ⟨body ++ behind, rfl, ?_⟩
    rw [List.mem_append, not_or]
    exact ⟨hbody, fun hmem => hquote (hsuffix.subset hmem)⟩
  nil := by
    rintro text' ⟨behind, -, hbehind, rfl⟩
    exact hbehind ▸ hmore
  closing := by
    rintro text text' ⟨behind, -, -, rfl⟩ hmem
    exact List.mem_append_left behind hmem
  closing_back := by
    rintro hnot text text' ⟨behind, hsuffix, -, rfl⟩ hmem
    rcases List.mem_append.mp hmem with hmem | hmem
    · exact hmem
    · exact absurd (hsuffix.subset hmem) hnot

end FilterQuery
