import FilterQuery.Proofs.Grammar
import FilterQuery.Reader.Expression

/-!
# Reading operands

What the readers of leaves reply, in terms of the runs that a text starts with, and what the reader
of operands does with each way in which a text can open.

* `readValue_eq_ok_iff`: the reader of values finds exactly the values of the grammar.
* `readValue_error`: where it finds none, a quote stays open or neither a quote nor a value
  character is there.
* `Opening`: the six ways in which a text opens. `operand_group` and the lemmas after it: the reply
  of the reader of operands, for each of them.
* `startsOperand`: whether the opening is one of an operand. It looks no further than the separator
  behind a key, and yet decides whether blanks before the text join anything
  (`operand_of_not_startsOperand`, `isNoOperand_of_startsOperand`).
* `LeafFault`: the faults of the reader of operands where no group opens, by what the text shows
  (`LeafFault.operand_eq`, `leafFault_of_operand`).
-/

namespace FilterQuery

open Text

/-! ## Leaves -/

theorem readRun_run {p : Char → Bool} {cause : Cause} {run rest : List Char} (h : Run p run)
    (hrest : Stops p rest) : readRun p cause (run ++ rest) = .ok (String.ofList run, rest) := by
  unfold readRun
  rw [takeWhile_run h.all hrest, dropWhile_run h.all hrest, if_neg (by simp [h.ne_nil])]

theorem readRun_stops {p : Char → Bool} {cause : Cause} {text : List Char} (h : Stops p text) :
    readRun p cause text = .error ⟨cause, text⟩ := by
  unfold readRun
  rw [takeWhile_of_stops h, if_pos List.isEmpty_nil]

/-- A text starts with a run of the class, or it stops at once. -/
theorem run_or_stops (p : Char → Bool) (text : List Char) :
    (∃ run rest, text = run ++ rest ∧ Run p run ∧ Stops p rest) ∨ Stops p text := by
  obtain ⟨run, hrun, hall⟩ := exists_run p text
  rcases run with _ | ⟨c, run⟩
  · right
    rw [hrun]
    exact stops_dropWhile p text
  · left
    exact ⟨c :: run, _, hrun, ⟨List.cons_ne_nil _ _, hall⟩, stops_dropWhile p text⟩

theorem readRun_eq_ok_iff {p : Char → Bool} {cause : Cause} {text rest : List Char}
    {value : String} : readRun p cause text = .ok (value, rest) ↔
      ∃ run, Run p run ∧ Stops p rest ∧ text = run ++ rest ∧ value = String.ofList run := by
  constructor
  · intro h
    rcases run_or_stops p text with ⟨run, rest', rfl, hrun, hrest⟩ | hstops
    · rw [readRun_run hrun hrest] at h
      cases h
      exact ⟨run, hrun, hrest, rfl, rfl⟩
    · rw [readRun_stops hstops] at h
      cases h
  · rintro ⟨run, hrun, hrest, rfl, rfl⟩
    exact readRun_run hrun hrest

theorem readRun_eq_error {p : Char → Bool} {cause : Cause} {text : List Char} {fault : Fault}
    (h : readRun p cause text = .error fault) : Stops p text ∧ fault = ⟨cause, text⟩ := by
  rcases run_or_stops p text with ⟨run, rest', rfl, hrun, hrest⟩ | hstops
  · rw [readRun_run hrun hrest] at h
    cases h
  · rw [readRun_stops hstops] at h
    exact ⟨hstops, (Except.error.inj h).symm⟩

theorem afterQuote?_eq_none_iff {text : List Char} :
    afterQuote? text = none ↔ quoteMark ∉ text := by
  constructor
  · intro h
    obtain ⟨run, hrun, hall⟩ := exists_run (· != quoteMark) text
    unfold afterQuote? at h
    split at h
    · next hnil =>
      rw [hnil, List.append_nil] at hrun
      subst hrun
      intro hmem
      simpa using hall _ hmem
    · cases h
  · intro h
    rcases hfound : afterQuote? text with _ | ⟨body, rest⟩
    · rfl
    · obtain ⟨rfl, -⟩ := afterQuote?_eq_some_iff.mp hfound
      simp at h

/-- Without a quote at its start, a text holds a bare value or none. -/
theorem readValue_of_ne {text : List Char} (h : text.head? ≠ some quoteMark) :
    readValue text = readBareValue text := by
  cases text with
  | nil => rfl
  | cons c text =>
    have hc : c ≠ quoteMark := fun hc => h (by simp [hc])
    simp only [readValue, if_neg hc]

theorem readValue_quote (body : List Char) :
    readValue (quoteMark :: body) =
      match afterQuote? body with
      | some (value, rest) => .ok (String.ofList value, rest)
      | none => .error ⟨.openQuote, quoteMark :: body⟩ := by
  rcases hfound : afterQuote? body with _ | ⟨value, rest⟩ <;> simp [readValue, hfound]

theorem readValue_eq_ok_iff {text rest : List Char} {value : String} :
    readValue text = .ok (value, rest) ↔ ValueAt value text rest := by
  constructor
  · intro h
    by_cases hquote : text.head? = some quoteMark
    · obtain ⟨body, rfl⟩ := List.head?_eq_some_iff.mp hquote
      rw [readValue_quote] at h
      split at h
      · next inner rest' hfound =>
        cases h
        obtain ⟨rfl, hinner⟩ := afterQuote?_eq_some_iff.mp hfound
        exact .quoted hinner
      · cases h
    · rw [readValue_of_ne hquote] at h
      obtain ⟨run, hrun, hrest, rfl, rfl⟩ := readRun_eq_ok_iff.mp h
      exact .bare hrun hrest
  · intro h
    cases h with
    | @quoted body _ hbody =>
      rw [readValue_quote, afterQuote?_eq_some_iff.mpr ⟨rfl, hbody⟩]
    | @bare run _ hrun hrest =>
      rw [readValue_of_ne, readBareValue, readRun_run hrun hrest]
      intro hhead
      obtain ⟨c, run, rfl⟩ := List.exists_cons_of_ne_nil hrun.ne_nil
      have hvalue := hrun.all c List.mem_cons_self
      rw [Option.some.inj hhead, isValueChar_quoteMark] at hvalue
      cases hvalue

/-- Why there is no value at the start of a text. -/
theorem readValue_error {text : List Char} {fault : Fault} (h : readValue text = .error fault) :
    (∃ body, text = quoteMark :: body ∧ quoteMark ∉ body ∧ fault = ⟨.openQuote, text⟩) ∨
      (text.head? ≠ some quoteMark ∧ Stops isValueChar text ∧ fault = ⟨.noValue, text⟩) := by
  by_cases hquote : text.head? = some quoteMark
  · obtain ⟨body, rfl⟩ := List.head?_eq_some_iff.mp hquote
    rw [readValue_quote] at h
    split at h
    · cases h
    · next hfound =>
      exact .inl ⟨body, rfl, afterQuote?_eq_none_iff.mp hfound, (Except.error.inj h).symm⟩
  · rw [readValue_of_ne hquote] at h
    obtain ⟨hstops, hfault⟩ := readRun_eq_error h
    exact .inr ⟨hquote, hstops, hfault⟩

/-- The key that is read is the one that its name makes. -/
theorem readKey_run {name rest : List Char} (h : Run isKeyChar name)
    (hrest : Stops isKeyChar rest) :
    readKey (name ++ rest) = .ok (Key.ofName (String.ofList name), rest) := by
  rw [readKey, readRun_run h hrest, ← Key.ofRun_eq_ofName]

theorem readPair_separator {name : List Char} (h : Run isKeyChar name) (text : List Char) :
    readPair (name ++ ':' :: text) =
      match readValue text with
      | .ok (value, rest) => .ok ((Key.ofName (String.ofList name), value), rest)
      | .error fault => .error fault := by
  rw [readPair, readKey_run h (stops_cons.mpr isKeyChar_colon)]
  simp only
  cases readValue text <;> rfl

theorem readPair_noSeparator {name rest : List Char} (h : Run isKeyChar name)
    (hrest : Stops (fun c => isKeyChar c || c == ':') rest) :
    readPair (name ++ rest) = .error ⟨.noSeparator (String.ofList name), rest⟩ := by
  have hkey : Stops isKeyChar rest := hrest.mono fun c hc => by simp [hc]
  rw [readPair, readKey_run h hkey]
  cases rest with
  | nil => simp
  | cons c rest =>
    have hc : c ≠ ':' := by
      rintro rfl
      simp at hrest
    simp [hc]

/-! ## How a text opens -/

/-- The ways in which a text opens: with nothing, a group, a sign, a key with its separator, letters
without a separator, or a character that starts no operand. -/
inductive Opening : List Char → Prop
  | nil : Opening []
  | group (inside : List Char) : Opening ('(' :: inside)
  | sign (polarity : Polarity) (rest : List Char) : Opening (polarity.sign :: rest)
  | key {name : List Char} (text : List Char) : Run isKeyChar name → Opening (name ++ ':' :: text)
  | letters {name rest : List Char} : Run isKeyChar name →
      Stops (fun c => isKeyChar c || c == ':') rest → Opening (name ++ rest)
  | other {c : Char} (rest : List Char) : c ≠ '(' → Polarity.ofSign? c = none →
      isKeyChar c = false → Opening (c :: rest)

theorem opening (text : List Char) : Opening text := by
  rcases run_or_stops isKeyChar text with ⟨name, rest, rfl, hname, hrest⟩ | hstops
  · rcases rest with _ | ⟨c, rest⟩
    · exact .letters hname (stops_nil _)
    · by_cases hc : c = ':'
      · subst hc
        exact .key rest hname
      · exact .letters hname (stops_cons.mpr (by simp [stops_cons.mp hrest, hc]))
  · rcases text with _ | ⟨c, text⟩
    · exact .nil
    · by_cases hgroup : c = '('
      · subst hgroup
        exact .group text
      · rcases hsign : Polarity.ofSign? c with _ | polarity
        · exact .other text hgroup hsign (stops_cons.mp hstops)
        · rw [Polarity.ofSign?_eq_some_iff.mp hsign]
          exact .sign polarity text

/-- Whether an operand can start the text: a group, a tag or an attribute pair up to its
separator. -/
def startsOperand (text : List Char) : Bool :=
  match text with
  | [] => false
  | c :: _ =>
    c == '(' || (Polarity.ofSign? c).isSome ||
      (isKeyChar c && (text.dropWhile isKeyChar).head? == some ':')

theorem ofSign?_sign (polarity : Polarity) : Polarity.ofSign? polarity.sign = some polarity :=
  Polarity.ofSign?_eq_some_iff.mpr rfl

theorem sign_ne_parenthesis (polarity : Polarity) : polarity.sign ≠ '(' :=
  (plain_sign polarity).1

theorem ofSign?_of_isKeyChar {c : Char} (h : isKeyChar c = true) : Polarity.ofSign? c = none := by
  rcases hsign : Polarity.ofSign? c with _ | polarity
  · rfl
  · rw [Polarity.ofSign?_eq_some_iff.mp hsign, isKeyChar_sign] at h
    cases h

/-- The first letter of a run of letters, which is neither a parenthesis nor a sign. -/
theorem Run.exists_key {name : List Char} (h : Run isKeyChar name) :
    ∃ c tail, name = c :: tail ∧ isKeyChar c = true ∧ c ≠ '(' ∧ Polarity.ofSign? c = none := by
  obtain ⟨c, tail, rfl⟩ := List.exists_cons_of_ne_nil h.ne_nil
  have hc := h.all c List.mem_cons_self
  exact ⟨c, tail, rfl, hc, (plain_of_isKeyChar hc).1, ofSign?_of_isKeyChar hc⟩

@[simp]
theorem startsOperand_nil : startsOperand [] = false := rfl

@[simp]
theorem startsOperand_group (inside : List Char) : startsOperand ('(' :: inside) = true := rfl

@[simp]
theorem startsOperand_sign (polarity : Polarity) (rest : List Char) :
    startsOperand (polarity.sign :: rest) = true := by
  simp [startsOperand, ofSign?_sign]

theorem startsOperand_run {name rest : List Char} (h : Run isKeyChar name)
    (hrest : Stops isKeyChar rest) :
    startsOperand (name ++ rest) = (rest.head? == some ':') := by
  have hdrop := dropWhile_run h.all hrest
  obtain ⟨c, tail, rfl, hc, hgroup, hsign⟩ := h.exists_key
  rw [List.cons_append] at hdrop ⊢
  simp [startsOperand, hdrop, hc, hgroup, hsign]

theorem startsOperand_key {name : List Char} (h : Run isKeyChar name) (text : List Char) :
    startsOperand (name ++ ':' :: text) = true := by
  rw [startsOperand_run h (stops_cons.mpr isKeyChar_colon)]
  rfl

theorem startsOperand_letters {name rest : List Char} (h : Run isKeyChar name)
    (hrest : Stops (fun c => isKeyChar c || c == ':') rest) :
    startsOperand (name ++ rest) = false := by
  rw [startsOperand_run h (hrest.mono fun c hc => by simp [hc])]
  cases rest with
  | nil => rfl
  | cons c rest =>
    have hc := stops_cons.mp hrest
    simp only [Bool.or_eq_false_iff] at hc
    simpa using hc.2

theorem startsOperand_other {c : Char} {rest : List Char} (hgroup : c ≠ '(')
    (hsign : Polarity.ofSign? c = none) (hkey : isKeyChar c = false) :
    startsOperand (c :: rest) = false := by
  simp [startsOperand, hgroup, hsign, hkey]

/-- A text starts an operand with a parenthesis, with a sign or with a key and its separator. -/
theorem startsOperand_iff {text : List Char} :
    startsOperand text = true ↔
      (∃ inside, text = '(' :: inside) ∨ (∃ polarity rest, text = Polarity.sign polarity :: rest) ∨
        ∃ name rest, Run isKeyChar name ∧ text = name ++ ':' :: rest := by
  constructor
  · intro h
    cases opening text with
    | nil => cases h
    | group inside => exact .inl ⟨inside, rfl⟩
    | sign polarity rest => exact .inr (.inl ⟨polarity, rest, rfl⟩)
    | key rest hname => exact .inr (.inr ⟨_, rest, hname, rfl⟩)
    | letters hname hrest => cases (startsOperand_letters hname hrest).symm.trans h
    | other rest hgroup hsign hkey => cases (startsOperand_other hgroup hsign hkey).symm.trans h
  · rintro (⟨inside, rfl⟩ | ⟨polarity, rest, rfl⟩ | ⟨name, rest, hname, rfl⟩)
    · exact startsOperand_group inside
    · exact startsOperand_sign polarity rest
    · exact startsOperand_key hname rest

/-- Before an operand there are no blanks left to skip. -/
theorem stops_isBlank_of_startsOperand {text : List Char} (h : startsOperand text = true) :
    Stops isBlank text := by
  rcases startsOperand_iff.mp h with
    ⟨inside, rfl⟩ | ⟨polarity, rest, rfl⟩ | ⟨name, rest, hname, rfl⟩
  · exact stops_cons.mpr isBlank_parenthesis.1
  · exact stops_cons.mpr (isBlank_sign polarity)
  · obtain ⟨c, tail, rfl, hc, -, -⟩ := hname.exists_key
    exact stops_cons.mpr (isBlank_of_isKeyChar hc)

/-! ## The reader of operands -/

section Operand

variable {settings : Settings} {depth : Nat}

theorem operand_nil :
    operand settings ⟨[], depth⟩ = .failed ⟨.noOperand none, []⟩ [] := by
  rw [operand_eq]

theorem operand_group (inside : List Char) :
    operand settings ⟨'(' :: inside, depth⟩ =
      if settings.maxDepth ≤ depth then
        .failed ⟨.tooDeep settings.maxDepth, '(' :: inside⟩ []
      else
        (disjunction settings ⟨skipBlanks inside, depth + 1⟩).andThen
          (closeGroup ('(' :: inside)) := by
  rw [operand_eq]
  dsimp only
  rw [if_pos rfl, group_eq]

theorem operand_sign (polarity : Polarity) (rest : List Char) :
    operand settings ⟨polarity.sign :: rest, depth⟩ = tagOperand polarity ⟨rest, depth⟩ := by
  rw [operand_eq]
  dsimp only
  rw [if_neg (sign_ne_parenthesis polarity), ofSign?_sign]

theorem operand_run {name : List Char} (h : Run isKeyChar name) (rest : List Char) :
    operand settings ⟨name ++ rest, depth⟩ = pairOperand settings ⟨name ++ rest, depth⟩ := by
  obtain ⟨c, tail, rfl, hc, hgroup, hsign⟩ := h.exists_key
  rw [operand_eq]
  simp only [List.cons_append, if_neg hgroup, hsign, if_pos hc]

theorem operand_key {name : List Char} (h : Run isKeyChar name) (text : List Char) :
    operand settings ⟨name ++ ':' :: text, depth⟩ =
      match readValue text with
      | .ok (value, rest) => .done (.ofPair (String.ofList name) value) ⟨rest, depth⟩
          (pairLog settings (Key.ofName (String.ofList name)) value)
      | .error fault => .failed fault [] := by
  rw [operand_run h, pairOperand, readPair_separator h]
  cases readValue text <;> rfl

theorem operand_letters {name rest : List Char} (h : Run isKeyChar name)
    (hrest : Stops (fun c => isKeyChar c || c == ':') rest) :
    operand settings ⟨name ++ rest, depth⟩ =
      .failed ⟨.noSeparator (String.ofList name), rest⟩ [] := by
  rw [operand_run h, pairOperand, readPair_noSeparator h hrest]
  rfl

theorem operand_other {c : Char} {rest : List Char} (hgroup : c ≠ '(')
    (hsign : Polarity.ofSign? c = none) (hkey : isKeyChar c = false) :
    operand settings ⟨c :: rest, depth⟩ = .failed ⟨.noOperand (some c), c :: rest⟩ [] := by
  rw [operand_eq]
  simp [hgroup, hsign, hkey]

/-- Text that starts no operand fails as such, at once. -/
theorem operand_of_not_startsOperand (settings : Settings) (depth : Nat) {text : List Char}
    (h : startsOperand text = false) :
    ∃ fault, operand settings ⟨text, depth⟩ = .failed fault [] ∧
      fault.cause.isNoOperand = true ∧ text.head? ≠ some '(' := by
  cases opening text with
  | nil => exact ⟨_, operand_nil, rfl, by simp⟩
  | group inside => simp at h
  | sign polarity rest => simp at h
  | key text hname => simp [startsOperand_key hname] at h
  | letters hname hrest =>
    refine ⟨_, operand_letters hname hrest, rfl, ?_⟩
    obtain ⟨c, tail, rfl, -, hgroup, -⟩ := hname.exists_key
    simpa using hgroup
  | other rest hgroup hsign hkey =>
    exact ⟨_, operand_other hgroup hsign hkey, rfl, by simpa using hgroup⟩

/-! ## Faults outside of groups -/

/-- The faults at the start of a text that opens no group. -/
inductive LeafFault : List Char → Fault → Prop
  | nothing : LeafFault [] ⟨.noOperand none, []⟩
  | other {c : Char} (rest : List Char) : c ≠ '(' → Polarity.ofSign? c = none →
      isKeyChar c = false → LeafFault (c :: rest) ⟨.noOperand (some c), c :: rest⟩
  | noTagName (polarity : Polarity) {rest : List Char} : Stops isTagChar rest →
      LeafFault (polarity.sign :: rest) ⟨.noTagName polarity, rest⟩
  | noSeparator {name rest : List Char} : Run isKeyChar name →
      Stops (fun c => isKeyChar c || c == ':') rest →
      LeafFault (name ++ rest) ⟨.noSeparator (String.ofList name), rest⟩
  | noValue {name rest : List Char} : Run isKeyChar name → rest.head? ≠ some quoteMark →
      Stops isValueChar rest → LeafFault (name ++ ':' :: rest) ⟨.noValue, rest⟩
  | openQuote {name body : List Char} : Run isKeyChar name → quoteMark ∉ body →
      LeafFault (name ++ ':' :: quoteMark :: body) ⟨.openQuote, quoteMark :: body⟩

theorem LeafFault.operand_eq {text : List Char} {fault : Fault} (h : LeafFault text fault) :
    operand settings ⟨text, depth⟩ = .failed fault [] := by
  cases h with
  | nothing => exact operand_nil
  | other rest hgroup hsign hkey => exact operand_other hgroup hsign hkey
  | noTagName polarity hrest =>
    rw [operand_sign, tagOperand, readTagName, readRun_stops hrest]
    rfl
  | noSeparator hname hrest => exact operand_letters hname hrest
  | noValue hname hquote hrest =>
    rw [operand_key hname, readValue_of_ne hquote, readBareValue, readRun_stops hrest]
  | openQuote hname hbody =>
    rw [operand_key hname, readValue_quote, afterQuote?_eq_none_iff.mpr hbody]

theorem leafFault_of_operand {text : List Char} {fault : Fault} {log : Log}
    (hgroup : text.head? ≠ some '(')
    (h : operand settings ⟨text, depth⟩ = .failed fault log) : LeafFault text fault := by
  cases opening text with
  | nil =>
    cases operand_nil.symm.trans h
    exact .nothing
  | group inside => exact absurd rfl hgroup
  | sign polarity rest =>
    rw [operand_sign, tagOperand] at h
    rcases hname : readTagName polarity rest with fault' | ⟨name, rest'⟩
    · rw [hname] at h
      cases h
      obtain ⟨hstops, rfl⟩ := readRun_eq_error hname
      exact .noTagName polarity hstops
    · rw [hname] at h
      cases h
  | key text hname =>
    rw [operand_key hname] at h
    split at h
    · cases h
    · next hvalue =>
      cases h
      rcases readValue_error hvalue with ⟨body, rfl, hbody, rfl⟩ | ⟨hquote, hstops, rfl⟩
      · exact .openQuote hname hbody
      · exact .noValue hname hquote hstops
  | letters hname hrest =>
    cases (operand_letters hname hrest).symm.trans h
    exact .noSeparator hname hrest
  | other rest hopen hsign hkey =>
    cases (operand_other hopen hsign hkey).symm.trans h
    exact .other rest hopen hsign hkey

/-- Text that starts an operand, and no group, never fails as if there were none. -/
theorem isNoOperand_of_startsOperand {text : List Char} {fault : Fault} {log : Log}
    (h : startsOperand text = true) (hgroup : text.head? ≠ some '(')
    (hfailed : operand settings ⟨text, depth⟩ = .failed fault log) :
    fault.cause.isNoOperand = false := by
  cases leafFault_of_operand hgroup hfailed with
  | nothing => simp at h
  | other rest hopen hsign hkey => simp [startsOperand_other hopen hsign hkey] at h
  | noSeparator hname hrest => simp [startsOperand_letters hname hrest] at h
  | noTagName _ _ | noValue _ _ _ | openQuote _ _ => rfl

end Operand

end FilterQuery
