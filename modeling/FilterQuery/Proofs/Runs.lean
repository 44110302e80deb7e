import FilterQuery.Lexeme.Scan

/-!
# Runs of characters

A lexeme is a run of characters of one class that stops where the class stops. The classes of the
filter language keep apart what the readers must tell apart.

* `Stops`: the text does not go on in the class. `Run`: a non-empty run of a class.
* `takeWhile_run`, `dropWhile_run`: the longest run at the start of a text is the run that stops.
* `Blanks`: a run of blanks, possibly empty. `skipBlanks_append`: scanning skips all of it.
* `Plain`: a character that neither opens nor closes a group nor delimits a value. Blanks, letters,
  numerals and the marks of bare values are plain.
* `isBlank_of_isAlphanumeric`: no letter or numeral is a blank, since their tables are apart.
-/

namespace FilterQuery

open Text

/-! ## Stopping -/

/-- The text is at its end or starts with a character outside of the class. -/
def Stops (p : Char → Bool) (text : List Char) : Prop :=
  ∀ c ∈ text.head?, p c = false

@[simp]
theorem stops_nil (p : Char → Bool) : Stops p [] := by
  simp [Stops]

@[simp]
theorem stops_cons {p : Char → Bool} {c : Char} {text : List Char} :
    Stops p (c :: text) ↔ p c = false := by
  simp [Stops]

theorem Stops.mono {p q : Char → Bool} {text : List Char} (h : Stops p text)
    (hpq : ∀ c, q c = true → p c = true) : Stops q text := by
  intro c hc
  have hp := h c hc
  cases hq : q c with
  | false => rfl
  | true => rw [hpq c hq] at hp; cases hp

theorem Stops.append {p : Char → Bool} {text : List Char} (h : Stops p text) (hne : text ≠ [])
    (more : List Char) : Stops p (text ++ more) := by
  obtain ⟨c, tail, rfl⟩ := List.exists_cons_of_ne_nil hne
  exact stops_cons.mpr (stops_cons.mp h)

theorem stops_dropWhile (p : Char → Bool) (text : List Char) : Stops p (text.dropWhile p) := by
  intro c hc
  have h := List.head?_dropWhile_not p text
  rw [Option.mem_def.mp hc] at h
  simpa using h

theorem dropWhile_of_stops {p : Char → Bool} {text : List Char} (h : Stops p text) :
    text.dropWhile p = text := by
  cases text with
  | nil => rfl
  | cons c text => rw [List.dropWhile_cons_of_neg (by simp [stops_cons.mp h])]

theorem takeWhile_of_stops {p : Char → Bool} {text : List Char} (h : Stops p text) :
    text.takeWhile p = [] := by
  cases text with
  | nil => rfl
  | cons c text => rw [List.takeWhile_cons_of_neg (by simp [stops_cons.mp h])]

/-! ## Runs -/

/-- A non-empty run of characters of a class. -/
structure Run (p : Char → Bool) (run : List Char) : Prop where
  ne_nil : run ≠ []
  all : ∀ c ∈ run, p c = true

instance (p : Char → Bool) (run : List Char) : Decidable (Run p run) :=
  decidable_of_iff (run ≠ [] ∧ run.all p = true)
    ⟨fun ⟨hne, hall⟩ => ⟨hne, List.all_eq_true.mp hall⟩,
      fun h => ⟨h.ne_nil, List.all_eq_true.mpr h.all⟩⟩

section Run

variable {p : Char → Bool} {run rest : List Char}

theorem takeWhile_run (h : ∀ c ∈ run, p c = true) (hrest : Stops p rest) :
    (run ++ rest).takeWhile p = run := by
  rw [List.takeWhile_append_of_pos h, takeWhile_of_stops hrest, List.append_nil]

theorem dropWhile_run (h : ∀ c ∈ run, p c = true) (hrest : Stops p rest) :
    (run ++ rest).dropWhile p = rest := by
  rw [List.dropWhile_append_of_pos h, dropWhile_of_stops hrest]

theorem all_takeWhile (p : Char → Bool) (text : List Char) :
    ∀ c ∈ text.takeWhile p, p c = true :=
  List.all_eq_true.mp List.all_takeWhile

/-- A text starts with a longest run of the class, possibly an empty one. -/
theorem exists_run (p : Char → Bool) (text : List Char) :
    ∃ run, text = run ++ text.dropWhile p ∧ ∀ c ∈ run, p c = true :=
  ⟨text.takeWhile p, List.takeWhile_append_dropWhile.symm, all_takeWhile p text⟩

end Run

/-! ## Blanks -/

/-- A run of blanks, possibly empty. -/
def Blanks (text : List Char) : Prop :=
  ∀ c ∈ text, isBlank c = true

theorem blanks_nil : Blanks [] := by
  simp [Blanks]

theorem blanks_space : Blanks [' '] := by
  have h : isBlank ' ' = true := by decide +kernel
  simpa [Blanks] using h

theorem Blanks.append {blanks blanks' : List Char} (h : Blanks blanks) (h' : Blanks blanks') :
    Blanks (blanks ++ blanks') := by
  intro c hc
  exact (List.mem_append.mp hc).elim (h c) (h' c)

theorem skipBlanks_append {blanks text : List Char} (h : Blanks blanks) :
    skipBlanks (blanks ++ text) = skipBlanks text :=
  List.dropWhile_append_of_pos h

theorem stops_skipBlanks (text : List Char) : Stops isBlank (skipBlanks text) :=
  stops_dropWhile isBlank text

theorem skipBlanks_of_stops {text : List Char} (h : Stops isBlank text) :
    skipBlanks text = text :=
  dropWhile_of_stops h

theorem exists_blanks (text : List Char) :
    ∃ blanks, text = blanks ++ skipBlanks text ∧ Blanks blanks :=
  exists_run isBlank text

theorem blanks_of_skipBlanks {text : List Char} (h : skipBlanks text = []) : Blanks text := by
  obtain ⟨blanks, htext, hblanks⟩ := exists_blanks text
  rw [h, List.append_nil] at htext
  rwa [htext]

theorem skipBlanks_extend {text : List Char} (hne : skipBlanks text ≠ []) (more : List Char) :
    skipBlanks (text ++ more) = skipBlanks text ++ more := by
  obtain ⟨blanks, htext, hblanks⟩ := exists_blanks text
  have hstops := (stops_skipBlanks text).append hne more
  have hmore : text ++ more = blanks ++ (skipBlanks text ++ more) := by
    rw [← List.append_assoc, ← htext]
  rw [hmore, skipBlanks_append hblanks, skipBlanks_of_stops hstops]

/-! ## Plain characters -/

/-- A character that neither opens nor closes a group nor delimits a value. -/
def Plain (c : Char) : Prop :=
  c ≠ '(' ∧ c ≠ ')' ∧ c ≠ quoteMark

theorem plain_of_isValueChar {c : Char} (h : isValueChar c = true) : Plain c := by
  refine ⟨?_, ?_, ?_⟩ <;> rintro rfl <;> revert h <;> decide +kernel

theorem plain_of_isTagChar {c : Char} (h : isTagChar c = true) : Plain c :=
  plain_of_isValueChar (isValueChar_of_isTagChar h)

theorem plain_of_isKeyChar {c : Char} (h : isKeyChar c = true) : Plain c :=
  plain_of_isTagChar (isTagChar_of_isKeyChar h)

theorem Run.plain {name : List Char} (h : Run isKeyChar name) : ∀ c ∈ name, Plain c :=
  fun c hc => plain_of_isKeyChar (h.all c hc)

theorem isValueChar_of_isKeyChar {c : Char} (h : isKeyChar c = true) : isValueChar c = true :=
  isValueChar_of_isTagChar (isTagChar_of_isKeyChar h)

theorem Run.isValueChar_separator {name : List Char} (h : Run isKeyChar name) :
    ∀ c ∈ name ++ [':'], isValueChar c = true := by
  intro c hc
  rcases List.mem_append.mp hc with hc | hc
  · exact isValueChar_of_isKeyChar (h.all c hc)
  · obtain rfl := List.mem_singleton.mp hc
    decide +kernel

theorem plain_of_isBlank {c : Char} (h : isBlank c = true) : Plain c := by
  refine ⟨?_, ?_, ?_⟩ <;> rintro rfl <;> revert h <;> decide +kernel

theorem plain_sign (polarity : Polarity) : Plain polarity.sign := by
  cases polarity <;> exact ⟨by decide, by decide, by decide⟩

theorem plain_word (connective : Connective) : ∀ c ∈ connective.word.toList, Plain c := by
  cases connective <;> simp [Plain, Connective.word, quoteMark]

/-! ## Classes that do not overlap -/

/-- No range of the first table meets a range of the second one. -/
def Text.CharRanges.apart (ranges ranges' : CharRanges) : Bool :=
  ranges.all fun r => ranges'.all fun r' => r.2 < r'.1 || r'.2 < r.1

theorem Text.CharRanges.not_mem_of_apart {ranges ranges' : CharRanges}
    (h : ranges.apart ranges' = true) {n : Nat} {r r' : Nat × Nat} (hr : r ∈ ranges)
    (hr' : r' ∈ ranges') (hn : r.1 ≤ n ∧ n ≤ r.2) : ¬(r'.1 ≤ n ∧ n ≤ r'.2) := by
  have hlt := List.all_eq_true.mp (List.all_eq_true.mp h r hr) r' hr'
  simp only [Bool.or_eq_true, decide_eq_true_eq] at hlt
  omega

theorem isBlank_of_isAlphanumeric {c : Char} (h : isAlphanumeric c = true) :
    isBlank c = false := by
  have hletter : blankRanges.apart alphabeticRanges = true := by decide +kernel
  have hnumeral : blankRanges.apart numericRanges = true := by decide +kernel
  apply Bool.eq_false_iff.mpr
  intro hblank
  obtain ⟨r, hr, hc⟩ := (isBlank_iff c).mp hblank
  rcases Bool.or_eq_true_iff.mp h with h | h
  · obtain ⟨r', hr', hc'⟩ := (isAlphabetic_iff c).mp h
    exact Text.CharRanges.not_mem_of_apart hletter hr hr' hc hc'
  · obtain ⟨r', hr', hc'⟩ := (isNumeric_iff c).mp h
    exact Text.CharRanges.not_mem_of_apart hnumeral hr hr' hc hc'

theorem isBlank_of_isKeyChar {c : Char} (h : isKeyChar c = true) : isBlank c = false :=
  isBlank_of_isAlphanumeric (isTagChar_of_isKeyChar h)

theorem isKeyChar_colon : isKeyChar ':' = false := by
  decide +kernel

theorem isKeyChar_sign (polarity : Polarity) : isKeyChar polarity.sign = false := by
  cases polarity <;> decide +kernel

theorem isBlank_sign (polarity : Polarity) : isBlank polarity.sign = false := by
  cases polarity <;> decide +kernel

theorem isBlank_parenthesis : isBlank '(' = false ∧ isBlank ')' = false := by
  decide +kernel

theorem all_isKeyChar_word (connective : Connective) :
    ∀ c ∈ connective.word.toList, isKeyChar c = true := by
  apply List.all_eq_true.mp
  cases connective <;> decide +kernel

end FilterQuery
