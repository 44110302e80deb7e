import FilterQuery.Proofs.Lookup
import FilterQuery.Proofs.Runs
import FilterQuery.Settings.Toml

/-!
# Documents whose lines assign numbers and truth values

The plainest documents have one assignment in each line, of a number or a truth value to a key
without quotes and points. They are written here, and read back by the reader of all documents,
which has to choose between everything else that could stand in a line.

* `ofDigits_toDigits`, `integerOfWord?_toDigits`: a number is read from the digits it is written in.
* `Word`, `Word.ofWord?_text`: what is assigned is read from its text, if it has a place in a
  document (`Word.Fits`).
* `readStatement?_line`, `readStatements?_lines`: one line, and all lines.
* `Document.foldlM_step?`: assignments to distinct keys do not clash.
* `Document.parse_lines`: the document that the lines are, and what it holds under each key.
-/

namespace FilterQuery.Toml

/-! ## Numbers in decimal digits -/

theorem ofDigits_toDigits (n : Nat) : ofDigits 10 (Nat.toDigits 10 n) = n := by
  induction n using Nat.strongRecOn with
  | ind n ih =>
    rcases Nat.lt_or_ge n 10 with hlt | hge
    · rw [Nat.toDigits_of_lt_base hlt]
      simp [ofDigits, digitValue_digitChar hlt]
    · have hdiv : n / 10 < n := Nat.div_lt_self (by omega) (by decide)
      rw [Nat.toDigits_of_base_le (by decide) hge, ofDigits_append, ih _ hdiv,
        digitValue_digitChar (Nat.mod_lt n (by decide))]
      exact Nat.div_add_mod n 10

theorem head?_toDigits_ne {n : Nat} (h : 0 < n) : (Nat.toDigits 10 n).head? ≠ some '0' := by
  induction n using Nat.strongRecOn with
  | ind n ih =>
    rcases Nat.lt_or_ge n 10 with hlt | hge
    · rw [Nat.toDigits_of_lt_base hlt, List.head?_cons]
      exact fun heq => Nat.ne_of_gt h (Nat.digitChar_eq_zero.mp (Option.some.inj heq))
    · have hdiv := ih (n / 10) (Nat.div_lt_self h (by decide)) (by omega)
      rw [Nat.toDigits_of_base_le (by decide) hge]
      rcases hdigits : Nat.toDigits 10 (n / 10) with _ | ⟨c, digits⟩
      · exact absurd hdigits Nat.toDigits_ne_nil
      · rw [hdigits] at hdiv
        exact hdiv

theorem isDigit_toDigits {n : Nat} : ∀ c ∈ Nat.toDigits 10 n, c.isDigit = true :=
  fun _ => Nat.isDigit_of_mem_toDigits (by decide) (by decide)

theorem digits?_of_isDigit {digits : List Char} (hne : digits ≠ [])
    (h : ∀ c ∈ digits, c.isDigit = true) : digits? Char.isDigit digits = some digits := by
  fun_induction digits? Char.isDigit digits with
  | case1 => exact absurd rfl hne
  | case2 c hc => rfl
  | case3 c hc => simp_all
  | case4 => simp at h
  | case5 => simp at h
  | case6 c rest _ _ hc ih => simp_all
  | case7 => simp_all

theorem plainDigits?_toDigits (n : Nat) :
    plainDigits? (Nat.toDigits 10 n) = some (Nat.toDigits 10 n) := by
  rw [plainDigits?, digits?_of_isDigit Nat.toDigits_ne_nil isDigit_toDigits,
    Option.filter_some, if_pos]
  rcases Nat.eq_zero_or_pos n with rfl | hpos
  · rfl
  · simp [head?_toDigits_ne hpos]

/-- The number has a place among the signed 64-bit numbers. -/
def Within64 (value : Int) : Prop :=
  Int64.minValue.toInt ≤ value ∧ value ≤ Int64.maxValue.toInt

instance (value : Int) : Decidable (Within64 value) :=
  inferInstanceAs (Decidable (_ ∧ _))

theorem within64_iff {value : Int} :
    Within64 value ↔ -9223372036854775808 ≤ value ∧ value < 9223372036854775808 := by
  have hmin : Int64.minValue.toInt = -9223372036854775808 := by decide
  have hmax : Int64.maxValue.toInt = 9223372036854775807 := by decide
  rw [Within64]
  omega

theorem integerOfWord?_toDigits {n : Nat} (h : Within64 n) :
    integerOfWord? (Nat.toDigits 10 n) = some (n : Int) := by
  rcases Nat.eq_zero_or_pos n with rfl | hpos
  · decide
  · have hzero := head?_toDigits_ne hpos
    have hsign : splitSign (Nat.toDigits 10 n) = (false, Nat.toDigits 10 n) := by
      have hdigit := isDigit_toDigits (n := n)
      unfold splitSign
      split
      · next hminus => exact absurd (hdigit '-' (by simp [hminus])) (by decide)
      · next hplus => exact absurd (hdigit '+' (by simp [hplus])) (by decide)
      · rfl
    unfold integerOfWord?
    split
    · next hx => simp [hx] at hzero
    · next hx => simp [hx] at hzero
    · next hx => simp [hx] at hzero
    · rw [hsign]
      dsimp only
      rw [plainDigits?_toDigits, Option.bind_some, ofDigits_toDigits]
      exact if_pos h

theorem integerOfWord?_minus {n : Nat} (h : Within64 (-n)) :
    integerOfWord? ('-' :: Nat.toDigits 10 n) = some (-(n : Int)) := by
  have hsign : splitSign ('-' :: Nat.toDigits 10 n) = (true, Nat.toDigits 10 n) := rfl
  unfold integerOfWord?
  rw [hsign]
  dsimp only
  rw [plainDigits?_toDigits, Option.bind_some, ofDigits_toDigits, if_pos rfl]
  exact if_pos h

/-! ## Words -/

/-- A value that is written as a word. -/
inductive Word where
  /-- A whole number, written in decimal digits. -/
  | integer (value : Int)
  /-- A truth value. -/
  | boolean (value : Bool)
  deriving DecidableEq, Repr

namespace Word

/-- The word. -/
def text : Word → String
  | integer value => toString value
  | boolean value => if value then "true" else "false"

/-- The value that the word stands for. -/
def toToml : Word → Toml
  | integer value => .integer value
  | boolean value => .boolean value

/-- A number has a place in a document. -/
def Fits : Word → Prop
  | integer value => Within64 value
  | boolean _ => True

instance (word : Word) : Decidable word.Fits :=
  match word with
  | integer value => inferInstanceAs (Decidable (Within64 value))
  | boolean _ => inferInstanceAs (Decidable True)

theorem text_natCast (n : Nat) : (integer n).text.toList = Nat.toDigits 10 n := by
  rw [text, Int.toString_eq_repr, Int.repr_eq_if, if_pos (Int.natCast_nonneg n), Int.toNat_natCast,
    Nat.toList_repr]

theorem text_of_neg {value : Int} (h : value < 0) :
    (integer value).text.toList = '-' :: Nat.toDigits 10 (-value).toNat := by
  rw [text, Int.toString_eq_repr, Int.repr_eq_if, if_neg (by omega), String.toList_append,
    Nat.toList_repr]
  rfl

theorem run_text (word : Word) : Run isWordChar word.text.toList := by
  have hdigits : ∀ n, ∀ c ∈ Nat.toDigits 10 n, isWordChar c = true := by
    intro n c hc
    simp [isWordChar, Char.isAlphanum, isDigit_toDigits c hc]
  cases word with
  | integer value =>
    rcases Int.lt_or_le value 0 with hneg | hnonneg
    · rw [text_of_neg hneg]
      exact ⟨List.cons_ne_nil _ _, List.forall_mem_cons.mpr ⟨rfl, hdigits _⟩⟩
    · obtain ⟨n, rfl⟩ := Int.eq_ofNat_of_zero_le hnonneg
      rw [text_natCast]
      exact ⟨Nat.toDigits_ne_nil, hdigits n⟩
  | boolean value => cases value <;> decide

theorem integerOfWord?_text {value : Int} (h : (integer value).Fits) :
    integerOfWord? (integer value).text.toList = some value := by
  rcases Int.lt_or_le value 0 with hneg | hnonneg
  · have habs : -((-value).toNat : Int) = value := by omega
    rw [text_of_neg hneg, integerOfWord?_minus (habs.symm ▸ h), habs]
  · obtain ⟨n, rfl⟩ := Int.eq_ofNat_of_zero_le hnonneg
    rw [text_natCast, integerOfWord?_toDigits h]

theorem ofWord?_text {word : Word} (h : word.Fits) :
    Toml.ofWord? word.text.toList = some word.toToml := by
  cases word with
  | integer value =>
    have hvalue := integerOfWord?_text h
    have htrue : (integer value).text.toList ≠ "true".toList := by
      intro heq
      rw [heq] at hvalue
      cases hvalue
    have hfalse : (integer value).text.toList ≠ "false".toList := by
      intro heq
      rw [heq] at hvalue
      cases hvalue
    rw [ofWord?, beq_false_of_ne htrue, beq_false_of_ne hfalse, hvalue]
    rfl
  | boolean value => cases value <;> rfl

end Word

/-! ## Lines -/

/-- A line that assigns a word to a key without quotes and points. -/
structure IsAssignment (entry : String × Word) : Prop where
  bareKey : Run isBareKeyChar entry.1.toList
  fits : entry.2.Fits

instance (entry : String × Word) : Decidable (IsAssignment entry) :=
  decidable_of_iff (Run isBareKeyChar entry.1.toList ∧ entry.2.Fits)
    ⟨fun ⟨hkey, hfits⟩ => ⟨hkey, hfits⟩, fun h => ⟨h.bareKey, h.fits⟩⟩

/-- The text of a line that assigns. -/
def lineOf (entry : String × Word) : String :=
  Settings.line entry.1 entry.2.text

theorem toList_lineOf (entry : String × Word) (rest : List Char) : (lineOf entry).toList ++ rest =
    entry.1.toList ++ ' ' :: '=' :: ' ' :: (entry.2.text.toList ++ '\n' :: rest) := by
  simp [lineOf, Settings.line]

/-- What starts in a class of characters does not start with a character outside of it. -/
theorem ne_of_class {p : Char → Bool} {c c' : Char} (h : p c = true) (h' : p c' = false) :
    c ≠ c' := by
  rintro rfl
  exact Bool.false_ne_true (h'.symm.trans h)

theorem isSpace_of_isBareKeyChar {c : Char} (h : isBareKeyChar c = true) : isSpace c = false := by
  simp [isSpace, ne_of_class h (by decide : isBareKeyChar ' ' = false),
    ne_of_class h (by decide : isBareKeyChar '\t' = false)]

theorem isSpace_of_isWordChar {c : Char} (h : isWordChar c = true) : isSpace c = false := by
  simp [isSpace, ne_of_class h (by decide : isWordChar ' ' = false),
    ne_of_class h (by decide : isWordChar '\t' = false)]

theorem readKeyPart?_bare {key rest : List Char} (h : Run isBareKeyChar key)
    (hrest : Stops isBareKeyChar rest) :
    readKeyPart? (key ++ rest) = some (String.ofList key, rest) := by
  have htake := takeWhile_run h.all hrest
  have hdrop := dropWhile_run h.all hrest
  have hne : key.isEmpty = false := by simpa using h.ne_nil
  obtain ⟨c, tail, rfl⟩ := List.exists_cons_of_ne_nil h.ne_nil
  have hc := h.all c (by simp)
  unfold readKeyPart?
  split
  · next heq => exact absurd (List.cons.inj heq).1 (ne_of_class hc (by decide))
  · next heq => exact absurd (List.cons.inj heq).1 (ne_of_class hc (by decide))
  · rw [htake, hdrop, hne]
    rfl

theorem readKey?_bare {key : String} (h : Run isBareKeyChar key.toList) (rest : List Char) :
    readKey? (key.toList ++ ' ' :: '=' :: rest) = some ([key], '=' :: rest) := by
  have hspace : Stops isSpace (key.toList ++ ' ' :: '=' :: rest) := by
    obtain ⟨c, tail, hkey⟩ := List.exists_cons_of_ne_nil h.ne_nil
    rw [hkey]
    exact stops_cons.mpr (isSpace_of_isBareKeyChar (h.all c (by simp [hkey])))
  have hstops : Stops isBareKeyChar (' ' :: '=' :: rest) := stops_cons.mpr (by decide)
  rw [readKey?, maxKeyParts, readKeyParts?, dropWhile_of_stops hspace, readKeyPart?_bare h hstops]
  simp [isSpace]

theorem readWord?_text {word : Word} (h : word.Fits) (rest : List Char) :
    readWord? (word.text.toList ++ '\n' :: rest) = some (word.toToml, '\n' :: rest) := by
  have hstops : Stops isWordChar ('\n' :: rest) := stops_cons.mpr (by decide)
  rw [readWord?, takeWhile_run word.run_text.all hstops, dropWhile_run word.run_text.all hstops]
  dsimp only
  rw [Word.ofWord?_text h]
  rfl

theorem readValue?_text {word : Word} (h : word.Fits) (rest : List Char) :
    readValue? (word.text.toList ++ '\n' :: rest) = some (word.toToml, '\n' :: rest) := by
  have hread := readWord?_text h rest
  obtain ⟨c, tail, htext⟩ := List.exists_cons_of_ne_nil word.run_text.ne_nil
  have hc := word.run_text.all c (by simp [htext])
  rw [htext, List.cons_append] at hread ⊢
  have hopens : ∀ c' rest', isWordChar c' = false → c :: (tail ++ '\n' :: rest) ≠ c' :: rest' :=
    fun c' rest' hc' heq => ne_of_class hc hc' (List.cons.inj heq).1
  rw [readValue?, maxValueDepth, readValueAt?, readScalar?, if_neg, hread]
  · simp [ne_of_class hc (by decide : isWordChar '"' = false),
      ne_of_class hc (by decide : isWordChar '\'' = false)]
  · exact fun rest' => hopens '[' rest' (by decide)
  · exact fun rest' => hopens '\x7b' rest' (by decide)

theorem readStatement?_line {entry : String × Word} (h : IsAssignment entry) (rest : List Char) :
    readStatement? ((lineOf entry).toList ++ rest) =
      some (.assign [entry.1] entry.2.toToml, '\n' :: rest) := by
  have hkey := readKey?_bare h.bareKey (' ' :: (entry.2.text.toList ++ '\n' :: rest))
  obtain ⟨c, tail, hcons⟩ := List.exists_cons_of_ne_nil h.bareKey.ne_nil
  have hc := h.bareKey.all c (by simp [hcons])
  have hspace : Stops isSpace (entry.2.text.toList ++ '\n' :: rest) := by
    obtain ⟨c', tail', htext⟩ := List.exists_cons_of_ne_nil entry.2.run_text.ne_nil
    rw [htext]
    exact stops_cons.mpr (isSpace_of_isWordChar (entry.2.run_text.all c' (by simp [htext])))
  have hassign : readAssignment? readValue? ((lineOf entry).toList ++ rest) =
      some (([entry.1], entry.2.toToml), '\n' :: rest) := by
    have hskip : List.dropWhile isSpace (' ' :: (entry.2.text.toList ++ '\n' :: rest)) =
        entry.2.text.toList ++ '\n' :: rest := by
      rw [List.dropWhile_cons_of_pos (by decide), dropWhile_of_stops hspace]
    rw [readAssignment?, toList_lineOf, hkey]
    change (readValue? (List.dropWhile isSpace (' ' :: _))).map _ = _
    rw [hskip, readValue?_text h.fits]
    rfl
  rw [toList_lineOf, hcons] at hassign ⊢
  unfold readStatement?
  split
  · next heq => exact absurd (List.cons.inj heq).1 (ne_of_class hc (by decide))
  · next heq => exact absurd (List.cons.inj heq).1 (ne_of_class hc (by decide))
  · rw [hassign]
    rfl

theorem skipComment_of_ne {c : Char} {text : List Char} (hspace : isSpace c = false)
    (hcomment : c ≠ '#') : skipComment (c :: text) = c :: text := by
  rw [skipComment, dropWhile_of_stops (stops_cons.mpr hspace)]
  split
  · next heq => exact absurd (List.cons.inj heq).1 hcomment
  · rfl

theorem skipLines_nil : skipLines [] = [] := by
  rw [skipLines]
  split
  · next h => cases h
  · rfl

/-- Where a bare key starts there are no empty lines. -/
theorem skip_bare {key : List Char} (h : Run isBareKeyChar key) (rest : List Char) :
    skipLines (key ++ rest) = key ++ rest ∧ skipComment (key ++ rest) = key ++ rest := by
  obtain ⟨c, tail, rfl⟩ := List.exists_cons_of_ne_nil h.ne_nil
  have hc := h.all c (by simp)
  have hspace := isSpace_of_isBareKeyChar hc
  have hcomment : skipComment (c :: (tail ++ rest)) = c :: (tail ++ rest) :=
    skipComment_of_ne hspace (ne_of_class hc (by decide))
  refine ⟨?_, hcomment⟩
  have hbreak : afterLineBreak? (c :: (tail ++ rest)) = none := by
    unfold afterLineBreak?
    split
    · next heq => exact absurd (List.cons.inj heq).1 (ne_of_class hc (by decide))
    · next heq => exact absurd (List.cons.inj heq).1 (ne_of_class hc (by decide))
    · rfl
  rw [List.cons_append, skipLines]
  split
  · next hsome =>
    rw [hcomment, hbreak] at hsome
    cases hsome
  · exact dropWhile_of_stops (stops_cons.mpr hspace)

theorem afterLine?_break (rest : List Char) : afterLine? ('\n' :: rest) = some rest := by
  rw [afterLine?, skipComment_of_ne (by decide) (by decide)]
  rfl

theorem readStatements?_lines {entries : List (String × Word)}
    (h : ∀ entry ∈ entries, IsAssignment entry) :
    readStatements? (entries.flatMap fun entry => (lineOf entry).toList) =
      some (entries.map fun entry => .assign [entry.1] entry.2.toToml) := by
  induction entries with
  | nil => rw [List.flatMap_nil, readStatements?, skipLines_nil, List.map_nil]
  | cons entry entries ih =>
    obtain ⟨hentry, hentries⟩ := List.forall_mem_cons.mp h
    rw [List.flatMap_cons, List.map_cons]
    generalize entries.flatMap (fun entry => (lineOf entry).toList) = rest at ih ⊢
    have hread := readStatement?_line hentry rest
    obtain ⟨hlines, hcomment⟩ := skip_bare hentry.bareKey
      (' ' :: '=' :: ' ' :: (entry.2.text.toList ++ '\n' :: rest))
    rw [← toList_lineOf] at hlines hcomment
    have hlt : rest.length < ((lineOf entry).toList ++ rest).length := by
      rw [toList_lineOf]
      simp only [List.length_append, List.length_cons]
      omega
    obtain ⟨c, tail, hcons⟩ : ∃ c tail, (lineOf entry).toList ++ rest = c :: tail :=
      List.exists_cons_of_ne_nil fun hnil => by simp [hnil] at hlt
    rw [readStatements?, hlines]
    simp only [hcons] at hread hcomment hlt ⊢
    rw [hcomment]
    simp only [hread, afterLine?_break, if_pos hlt, ih hentries, Option.map_some]

/-! ## Documents -/

namespace Document

/-- What a document holds for an entry of the document itself. -/
def entryOf (entry : String × Word) : Path × Entry :=
  ([.key entry.1], .value entry.2.toToml)

theorem step?_assign {document : Document} {key : String} (value : Toml)
    (h : document.lookup [.key key] = none) :
    step? ([], document) (.assign [key] value) =
      some ([], ([.key key], .value value) :: document) := by
  simp [step?, assign?, descend?, h]

/-- Assignments to distinct keys do not clash. -/
theorem foldlM_step? {entries : List (String × Word)} (hnodup : (entries.map Prod.fst).Nodup)
    {document : Document} (hfresh : ∀ entry ∈ entries, document.lookup [.key entry.1] = none) :
    (entries.map fun entry => Statement.assign [entry.1] entry.2.toToml).foldlM step?
      ([], document) = some ([], (entries.map entryOf).reverse ++ document) := by
  induction entries generalizing document with
  | nil => rfl
  | cons entry entries ih =>
    rw [List.map_cons, List.nodup_cons] at hnodup
    obtain ⟨hentry, hentries⟩ := List.forall_mem_cons.mp hfresh
    rw [List.map_cons, List.foldlM_cons, step?_assign _ hentry]
    have hbehind : ∀ other ∈ entries,
        List.lookup [.key other.1] (entryOf entry :: document) = none := by
      intro other hother
      rw [entryOf, lookup_cons_of_ne, hentries other hother]
      intro heq
      simp only [List.cons.injEq, Step.key.injEq, and_true] at heq
      exact hnodup.1 (List.mem_map.mpr ⟨other, hother, heq⟩)
    rw [List.map_cons, List.reverse_cons, List.append_assoc]
    exact ih hnodup.2 hbehind

theorem lookup_map_entryOf (entries : List (String × Word)) (name : String) :
    (entries.map entryOf).lookup [.key name] =
      (entries.lookup name).map fun word => .value word.toToml := by
  induction entries with
  | nil => rfl
  | cons entry entries ih =>
    obtain ⟨name', word⟩ := entry
    rw [List.map_cons, entryOf]
    by_cases hname : name = name'
    · subst hname
      rw [List.lookup_cons_self, List.lookup_cons_self]
      rfl
    · rw [lookup_cons_of_ne hname, lookup_cons_of_ne, ih]
      simpa using hname

theorem skipByteOrderMark_lines {entries : List (String × Word)}
    (h : ∀ entry ∈ entries, IsAssignment entry) :
    skipByteOrderMark (entries.flatMap fun entry => (lineOf entry).toList) =
      entries.flatMap fun entry => (lineOf entry).toList := by
  cases entries with
  | nil => rfl
  | cons entry entries =>
    have hkey := (h entry (by simp)).bareKey
    obtain ⟨c, tail, hcons⟩ := List.exists_cons_of_ne_nil hkey.ne_nil
    have hc := hkey.all c (by simp [hcons])
    rw [List.flatMap_cons, toList_lineOf, hcons]
    unfold skipByteOrderMark
    split
    · next heq => exact absurd (List.cons.inj heq).1 (ne_of_class hc (by decide))
    · rfl

/-- Lines that assign words to distinct keys are a document, which holds these words. -/
theorem parse_lines {entries : List (String × Word)} (h : ∀ entry ∈ entries, IsAssignment entry)
    (hnodup : (entries.map Prod.fst).Nodup) :
    ∃ document, Document.parse (String.join (entries.map lineOf)) = some document ∧
      ∀ name, document.entry? name =
        (entries.lookup name).map fun word => .value word.toToml := by
  refine ⟨(entries.map entryOf).reverse ++ [], ?_, fun name => ?_⟩
  · rw [Document.parse, String.toList_join, List.flatMap_map, skipByteOrderMark_lines h,
      readStatements?_lines h, Option.bind_some, ofStatements?, foldlM_step? hnodup (by simp)]
    rfl
  · have hpaths : ((entries.map Prod.fst).map fun name => [Step.key name]).Nodup :=
      hnodup.map fun _ _ heq => by simpa using heq
    rw [List.map_map] at hpaths
    have hkeys : ((entries.map entryOf).map Prod.fst).Nodup := by
      rwa [List.map_map]
    unfold entry?
    rw [← lookup_map_entryOf]
    exact lookup_of_perm ((List.reverse_perm _).append_right []) hkeys (by simp)

end Document

end FilterQuery.Toml
