import FilterQuery.Proofs.Grouping

/-!
# What a text begins with

A key or a value can be asked for at the start of a text, whatever follows it. What is found there,
or what is wrong there, is what the reader of whole texts finds in an attribute pair.

* `Key.parse_run`, `Key.parse_stops`: the key that a text begins with. It is classified as it is
  read, and by `Key.ofRun_eq_ofName` that makes it the key of its name.
* `wholeText_noSeparator`, `wholeText_noValue`, `denotes_pair`: a whole text with no separator
  behind its key, with no value behind the separator, and with nothing behind the value.
* `errorIn_of_readValue`: the error of a value, alone and with text in front of it.
* `Filter.parse_noSeparator`, `Filter.parse_noValue`, `Filter.parse_value`: what the whole text is
  then.
* `parse_beginning`: the key, the pair and the errors of a text that begins with a letter.
-/

namespace FilterQuery

open Text

/-! ## Parts of texts -/

section ParseStart

variable {α : Type} {read : List Char → Except Fault (α × List Char)} {input : String}

theorem parseStart_eq_ok_iff {value : α} :
    parseStart read input = .ok value ↔ ∃ rest, read input.toList = .ok (value, rest) := by
  rw [parseStart]
  rcases read input.toList with fault | ⟨found, rest⟩ <;> simp

theorem parseStart_eq_error_iff {error : SyntaxError} :
    parseStart read input = .error error ↔
      ∃ fault, read input.toList = .error fault ∧ fault.errorIn input.toList = error := by
  rw [parseStart]
  rcases read input.toList with fault | ⟨found, rest⟩ <;> simp

end ParseStart

section Key

variable {name rest : String}

theorem Key.parse_run (hname : Run isKeyChar name.toList) (hrest : Stops isKeyChar rest.toList) :
    Key.parse (name ++ rest) = .ok (Key.ofName name) := by
  refine parseStart_eq_ok_iff.mpr ⟨rest.toList, ?_⟩
  rw [String.toList_append, readKey_run hname hrest, String.ofList_toList]

theorem Key.parse_stops {input : String} (h : Stops isKeyChar input.toList) :
    Key.parse input = .error ⟨.invalidKey, 0, "expected a key made of letters"⟩ := by
  refine parseStart_eq_error_iff.mpr ⟨⟨.noKey, input.toList⟩, ?_, ?_⟩
  · rw [readKey, readRun_stops h]
  · rw [Fault.errorIn, offset, Nat.sub_self]
    rfl

end Key

/-! ## Whole texts that begin with a key -/

section Pair

variable {settings : Settings} {name rest value : List Char}

theorem Run.stops_isBlank (h : Run isKeyChar name) (rest : List Char) :
    Stops isBlank (name ++ rest) := by
  obtain ⟨c, tail, rfl, hc, -, -⟩ := h.exists_key
  exact stops_cons.mpr (isBlank_of_isKeyChar hc)

theorem wholeText_noSeparator (hname : Run isKeyChar name)
    (hrest : Stops (fun c => isKeyChar c || c == ':') rest) :
    wholeText settings (name ++ rest) =
      .failed ⟨.noSeparator (String.ofList name), rest⟩ [] :=
  wholeText_of_operand_failed (hname.stops_isBlank rest) (operand_letters hname hrest)

theorem wholeText_noValue (hname : Run isKeyChar name) {fault : Fault}
    (h : readValue value = .error fault) :
    wholeText settings (name ++ ':' :: value) = .failed fault [] := by
  refine wholeText_of_operand_failed (hname.stops_isBlank _) ?_
  refine (operand_key hname value).trans ?_
  rw [h]

/-- A value behind a key and its separator, and nothing else. -/
theorem denotes_pair (hname : Run isKeyChar name) {found : String}
    (h : ValueAt found value []) :
    Denotes 0 (.ofPair (String.ofList name) found) (name ++ ':' :: value) := by
  have hpair : Derives .operand 0 (.ofPair (String.ofList name) found) (name ++ ':' :: value) [] :=
    .pair hname h
  rw [← List.nil_append (name ++ ':' :: value)]
  exact .intro blanks_nil (.single (.single hpair)) blanks_nil

/-- What is wrong with a value does not depend on what stands in front of it. -/
theorem errorIn_of_readValue {fault : Fault} (h : readValue value = .error fault)
    (before : List Char) :
    fault.errorIn (before ++ value) = ⟨(fault.errorIn value).kind,
      byteLength before + (fault.errorIn value).position, (fault.errorIn value).expected⟩ := by
  have hunread : fault.unread = value := by
    rcases readValue_error h with ⟨body, -, -, rfl⟩ | ⟨-, -, rfl⟩ <;> rfl
  have hexpected : ∀ position, fault.cause.expected position = fault.cause.expected 0 := by
    rcases readValue_error h with ⟨body, -, -, rfl⟩ | ⟨-, -, rfl⟩ <;> exact fun _ => rfl
  simp only [Fault.errorIn, Cause.errorAt, hunread, offset_append, hexpected]
  rw [offset, Nat.sub_self, Nat.add_zero]

end Pair

section Parse

variable {name rest value : String}

theorem Filter.parse_noSeparator (hname : Run isKeyChar name.toList)
    (hrest : Stops isKeyChar rest.toList) (hseparator : rest.toList.head? ≠ some ':') :
    Filter.parse (name ++ rest) = .error
      ⟨.missingSeparator, name.utf8ByteSize, "expected ':' after key '" ++ name ++ "'"⟩ := by
  have hstops : Stops (fun c => isKeyChar c || c == ':') rest.toList := by
    intro c hc
    have hcolon : c ≠ ':' := by
      rintro rfl
      exact hseparator hc
    simp [hrest c hc, hcolon]
  have hwhole : wholeText {} _ = _ := wholeText_noSeparator hname hstops
  rw [← String.toList_append] at hwhole
  rw [Filter.parse, parse_of_failed (by nofun) hwhole, Fault.errorIn, String.toList_append,
    offset_append, byteLength_toList, String.ofList_toList]
  rfl

theorem toList_separator (name value : String) :
    (name ++ (":" ++ value)).toList = name.toList ++ ':' :: value.toList := by
  simp

theorem Filter.parse_noValue (hname : Run isKeyChar name.toList) {error : SyntaxError}
    (h : parseValue value = .error error) :
    Filter.parse (name ++ (":" ++ value)) = .error
      ⟨error.kind, name.utf8ByteSize + 1 + error.position, error.expected⟩ := by
  obtain ⟨fault, hfault, rfl⟩ := parseStart_eq_error_iff.mp h
  have hwhole : wholeText {} _ = _ := wholeText_noValue hname hfault
  rw [← toList_separator] at hwhole
  rw [Filter.parse, parse_of_failed (by nofun) hwhole, toList_separator, List.append_cons,
    errorIn_of_readValue hfault, byteLength_append, byteLength_toList]
  rfl

/-- The value reaches as far as it would alone, and up to there the text is an attribute pair. -/
theorem Filter.parse_value (hname : Run isKeyChar name.toList) {found : String}
    (h : parseValue value = .ok found) :
    ∃ consumed behind, value = consumed ++ behind ∧ ValueAt found value.toList behind.toList ∧
      Filter.parse (name ++ ":" ++ consumed) = .ok (.pair (Key.ofName name) found) := by
  obtain ⟨behind, hread⟩ := parseStart_eq_ok_iff.mp h
  have hvalueAt := readValue_eq_ok_iff.mp hread
  obtain ⟨consumed, hvalue, hconsumed⟩ := hvalueAt.followed
  have halone := hconsumed (replaces_of_stops (stops_nil _))
  rw [List.append_nil] at halone
  have hdenotes := denotes_pair hname halone
  rw [String.ofList_toList] at hdenotes
  refine ⟨String.ofList consumed, String.ofList behind, ?_, ?_, ?_⟩
  · rw [← String.ofList_append, ← hvalue, String.ofList_toList]
  · rwa [String.toList_ofList]
  · refine parse_of_denotes (by nofun) (Nat.zero_le _) ?_
    simpa [Filter.ofPair] using hdenotes

end Parse

/-- A text that begins with a letter begins with a key. Without a separator behind it the text is no
filter, and likewise with anything behind the separator that begins with no value: the error is that
of the value, moved. With a value behind the separator, the text up to the end of the value is an
attribute pair. A text that does not begin with a letter begins with no key. -/
theorem parse_beginning (name rest : String) (hname : Run isKeyChar name.toList)
    (hrest : Stops isKeyChar rest.toList) :
    Key.parse (name ++ rest) = .ok (Key.ofName name) ∧
    (rest.toList.head? ≠ some ':' →
      Filter.parse (name ++ rest) = .error
        ⟨.missingSeparator, name.utf8ByteSize, "expected ':' after key '" ++ name ++ "'"⟩) ∧
    (∀ value, rest = ":" ++ value →
      (∀ error, parseValue value = .error error →
        Filter.parse (name ++ rest) = .error
          ⟨error.kind, name.utf8ByteSize + 1 + error.position, error.expected⟩) ∧
      ∀ found, parseValue value = .ok found →
        ∃ consumed behind, value = consumed ++ behind ∧
          ValueAt found value.toList behind.toList ∧
          Filter.parse (name ++ ":" ++ consumed) = .ok (.pair (Key.ofName name) found)) ∧
    ∀ input : String, Stops isKeyChar input.toList →
      Key.parse input = .error ⟨.invalidKey, 0, "expected a key made of letters"⟩ := by
  refine ⟨Key.parse_run hname hrest, Filter.parse_noSeparator hname hrest, ?_,
    fun input => Key.parse_stops⟩
  rintro value rfl
  exact ⟨fun error => Filter.parse_noValue hname, fun found => Filter.parse_value hname⟩

/-- A letter of two bytes, in front of a text without a separator, of a quote that stays open, and
of a value with more text behind it. -/
theorem parse_beginning_accented :
    Run isKeyChar "é".toList ∧ Stops isKeyChar "(x)".toList ∧ Stops isKeyChar ":'x".toList ∧
    Stops isKeyChar ":'1 2'or".toList ∧
    Key.parse ("é" ++ ":'1 2'or") = .ok (Key.ofName "é") ∧
    Filter.parse ("é" ++ "(x)") =
      .error ⟨.missingSeparator, 2, "expected ':' after key 'é'"⟩ ∧
    Filter.parse ("é" ++ ":'x") = .error ⟨.unterminatedQuote, 3, "unterminated quoted string"⟩ ∧
    (∃ consumed behind, "'1 2'or" = consumed ++ behind ∧
      ValueAt "1 2" "'1 2'or".toList behind.toList ∧
      Filter.parse ("é" ++ ":" ++ consumed) = .ok (.pair (Key.ofName "é") "1 2")) ∧
    Key.parse "(x)" = .error ⟨.invalidKey, 0, "expected a key made of letters"⟩ := by
  have hname : Run isKeyChar "é".toList := by decide +kernel
  have hgroup : Stops isKeyChar "(x)".toList := stops_cons.mpr (by decide +kernel)
  have hquote : Stops isKeyChar ":'x".toList := stops_cons.mpr isKeyChar_colon
  have hvalue : Stops isKeyChar ":'1 2'or".toList := stops_cons.mpr isKeyChar_colon
  have herror : parseValue "'x" = .error ⟨.unterminatedQuote, 0, "unterminated quoted string"⟩ :=
    parseStart_eq_error_iff.mpr ⟨⟨.openQuote, "'x".toList⟩, by rfl, by decide +kernel⟩
  have hfound : parseValue "'1 2'or" = .ok "1 2" :=
    parseStart_eq_ok_iff.mpr ⟨"or".toList, by rfl⟩
  obtain ⟨hkey, -, hpair, hnoKey⟩ := parse_beginning "é" ":'1 2'or" hname hvalue
  refine ⟨hname, hgroup, hquote, hvalue, hkey, ?_, ?_, (hpair "'1 2'or" rfl).2 "1 2" hfound,
    hnoKey "(x)" hgroup⟩
  · exact (parse_beginning "é" "(x)" hname hgroup).2.1 (by decide)
  · exact ((parse_beginning "é" ":'x" hname hquote).2.2.1 "'x" rfl).1 _ herror

end FilterQuery
