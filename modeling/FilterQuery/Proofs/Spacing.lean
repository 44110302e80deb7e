import FilterQuery.Proofs.SideBySide

/-!
# Blanks in place of blanks

Outside of quoted values one run of blanks is as good as another one, wherever it stands and whether
or not the text is a filter. Blanks can also be put in front of a text and behind it.

* `Interchanged`: two texts that differ in one run of blanks. `sideBySide_interchanged`: they are
  read side by side. That the run is not in a quoted value is told by the quotes in front of it.
* `SameResult`: the same filter, or an error of the same kind, at a place that may have moved.
* `parse_spacing`: the results for texts that differ in one run of blanks, or in blanks at the
  start or at the end.
-/

namespace FilterQuery

open Text

/-! ## Texts that differ in one run of blanks -/

/-- Two texts of which the second one has `blanks'` where the first one has `blanks`, in front of
`behind`. If they start behind these blanks, they are the same. -/
inductive Interchanged (blanks blanks' behind : List Char) : List Char → List Char → Prop
  | before {before : List Char} : before.count quoteMark % 2 = 0 →
      Interchanged blanks blanks' behind (before ++ (blanks ++ behind))
        (before ++ (blanks' ++ behind))
  | behind {text : List Char} : text <:+ behind → Interchanged blanks blanks' behind text text

section Interchanged

variable {blanks blanks' behind : List Char}

theorem Blanks.count_quoteMark (h : Blanks blanks) : blanks.count quoteMark = 0 :=
  List.count_eq_zero.mpr fun hmem => (h.plain _ hmem).2.2 rfl

/-- A quoted value ends at one place only. -/
theorem quoted_unique {body body' rest rest' : List Char} (hbody : quoteMark ∉ body)
    (hbody' : quoteMark ∉ body') (h : body ++ quoteMark :: rest = body' ++ quoteMark :: rest') :
    body = body' ∧ rest = rest' := by
  have hfound := afterQuote?_eq_some_iff.mpr ⟨h, hbody'⟩
  rw [afterQuote?_eq_some_iff.mpr ⟨rfl, hbody⟩] at hfound
  simpa using hfound

/-- Behind an opening quote the text in front of the blanks has the closing quote. -/
theorem quoteMark_mem_of_count {before : List Char}
    (h : (quoteMark :: before).count quoteMark % 2 = 0) : quoteMark ∈ before := by
  rw [List.count_cons_self] at h
  exact List.count_pos_iff.mp (by omega)

theorem Interchanged.skip (hblanks : Blanks blanks) (hblanks' : Blanks blanks')
    {text text' : List Char} (h : Interchanged blanks blanks' behind text text') :
    Interchanged blanks blanks' behind (skipBlanks text) (skipBlanks text') := by
  cases h with
  | behind hsuffix => exact .behind ((List.dropWhile_suffix _).trans hsuffix)
  | @before before hcount =>
    by_cases hskip : skipBlanks before = []
    · have hbefore := blanks_of_skipBlanks hskip
      rw [skipBlanks_append hbefore, skipBlanks_append hbefore, skipBlanks_append hblanks,
        skipBlanks_append hblanks']
      exact .behind (List.dropWhile_suffix _)
    · rw [skipBlanks_extend hskip, skipBlanks_extend hskip]
      obtain ⟨first, hbefore, hfirst⟩ := exists_blanks before
      rw [hbefore, List.count_append, hfirst.count_quoteMark, Nat.zero_add] at hcount
      exact .before hcount

theorem Interchanged.closing (hblanks : Blanks blanks) {text text' : List Char}
    (h : Interchanged blanks blanks' behind text text') (hmem : ')' ∈ text) : ')' ∈ text' := by
  cases h with
  | behind _ => exact hmem
  | before _ =>
    simp only [List.mem_append] at hmem ⊢
    rcases hmem with hmem | hmem | hmem
    · exact .inl hmem
    · exact absurd rfl (hblanks.plain _ hmem).2.1
    · exact .inr (.inr hmem)

theorem Interchanged.symm {text text' : List Char}
    (h : Interchanged blanks blanks' behind text text') :
    Interchanged blanks' blanks behind text' text := by
  cases h with
  | before hcount => exact .before hcount
  | behind hsuffix => exact .behind hsuffix

/-- A character that is no blank stands in both texts, in front of the blanks or behind them. -/
theorem exists_cons_of_interchanged (hblanks : Run isBlank blanks) {c : Char}
    {text text' : List Char} (hc : isBlank c = false)
    (h : Interchanged blanks blanks' behind (c :: text) text') :
    (∃ before, (c :: before).count quoteMark % 2 = 0 ∧ text = before ++ (blanks ++ behind) ∧
      text' = c :: (before ++ (blanks' ++ behind))) ∨ c :: text <:+ behind ∧ text' = c :: text := by
  generalize htext : c :: text = whole at h
  cases h with
  | behind hsuffix => exact .inr ⟨hsuffix, rfl⟩
  | @before before hcount =>
    rcases before with _ | ⟨d, before⟩
    · obtain ⟨c', tail, rfl⟩ := List.exists_cons_of_ne_nil hblanks.ne_nil
      obtain ⟨rfl, -⟩ := List.cons.inj htext
      rw [hblanks.all c List.mem_cons_self] at hc
      cases hc
    · obtain ⟨rfl, rfl⟩ := List.cons.inj htext
      exact .inl ⟨before, hcount, rfl, rfl⟩

/-- Texts that differ in one run of blanks are read side by side. -/
theorem sideBySide_interchanged (hblanks : Run isBlank blanks) (hblanks' : Run isBlank blanks') :
    SideBySide False (Interchanged blanks blanks' behind) where
  skip := Interchanged.skip hblanks.all hblanks'.all
  blank := by
    intro c text text' hc h
    generalize htext : c :: text = whole at h
    cases h with
    | behind _ => exact ⟨c, text, htext.symm, hc⟩
    | @before before _ =>
      rcases before with _ | ⟨d, before⟩
      · obtain ⟨c', tail, rfl⟩ := List.exists_cons_of_ne_nil hblanks'.ne_nil
        exact ⟨c', tail ++ behind, rfl, hblanks'.all c' List.mem_cons_self⟩
      · obtain ⟨rfl, -⟩ := List.cons.inj htext
        exact ⟨c, _, rfl, hc⟩
  cons := by
    intro c text text' hc hquote h
    rcases exists_cons_of_interchanged hblanks hc h with
      ⟨before, hcount, rfl, rfl⟩ | ⟨hsuffix, rfl⟩
    · rw [List.count_cons_of_ne hquote] at hcount
      exact ⟨_, rfl, .before hcount⟩
    · exact ⟨text, rfl, .behind ((List.suffix_cons c text).trans hsuffix)⟩
  quoted := by
    intro body rest text' hbody h
    rcases exists_cons_of_interchanged hblanks isBlank_quoteMark h with
      ⟨before, hcount, htext, rfl⟩ | ⟨hsuffix, rfl⟩
    · -- The value is closed in front of the blanks.
      obtain ⟨body', before', rfl, hbody'⟩ :=
        List.eq_append_cons_of_mem (quoteMark_mem_of_count hcount)
      rw [List.append_assoc] at htext
      obtain ⟨rfl, rfl⟩ := quoted_unique hbody hbody' htext
      refine ⟨before' ++ (blanks' ++ behind), by simp, .before ?_⟩
      have hopen := List.count_eq_zero.mpr hbody
      rw [List.count_cons_self, List.count_append, List.count_cons_self, hopen] at hcount
      omega
    · refine ⟨rest, rfl, .behind (List.IsSuffix.trans ?_ hsuffix)⟩
      exact ⟨quoteMark :: (body ++ [quoteMark]), by simp⟩
  openQuote := by
    intro body text' hbody h
    rcases exists_cons_of_interchanged hblanks isBlank_quoteMark h with
      ⟨before, hcount, rfl, -⟩ | ⟨-, rfl⟩
    · exact absurd (List.mem_append_left _ (quoteMark_mem_of_count hcount)) hbody
    · exact ⟨body, rfl, hbody⟩
  nil := by
    intro text' h
    generalize htext : [] = whole at h
    cases h with
    | behind _ => exact .inl (htext ▸ rfl)
    | before _ => simp [hblanks.ne_nil] at htext
  closing := Interchanged.closing hblanks.all
  closing_back _ _ _ h := h.symm.closing hblanks'.all

end Interchanged

/-! ## Results -/

/-- The same filter, or an error of the same kind whose position has moved as told. -/
inductive SameResult (moved : Nat → Nat → Prop) :
    Except SyntaxError Filter → Except SyntaxError Filter → Prop
  | ok {filter : Filter} : SameResult moved (.ok filter) (.ok filter)
  | error {error error' : SyntaxError} : error'.kind = error.kind →
      moved error.position error'.position → SameResult moved (.error error) (.error error')

/-- A position stays where it is up to `start`, and moves with the text behind the `n` bytes there
if these become `n'` bytes. -/
def MovedBehind (start n n' position position' : Nat) : Prop :=
  (position ≤ start ∧ position' = position) ∨ (start < position ∧ position' + n = position + n')

section Results

variable {settings : Settings} {related : List Char → List Char → Prop} {moved : Nat → Nat → Prop}

/-- If the replies on two texts agree, the results are the same. Their errors stand where the rests
of the texts are related. -/
theorem Agrees.sameResult {input input' : String} (hlength : settings.maxLength = none)
    (h : Agrees False related 0 (wholeText settings input.toList)
      (wholeText settings input'.toList))
    (hmoved : ∀ before before' rest rest', input.toList = before ++ rest →
      input'.toList = before' ++ rest' → related rest rest' →
      moved (byteLength before) (byteLength before')) :
    SameResult moved (settings.parse input).result (settings.parse input').result := by
  have hfits : ∀ input : String, ∀ limit, settings.maxLength = some limit →
      input.utf8ByteSize ≤ limit := by
    intro input limit hlimit
    cases hlength.symm.trans hlimit
  rcases hwhole : wholeText settings input.toList with ⟨filter, next, log⟩ | ⟨fault, log⟩
  · rw [hwhole] at h
    obtain ⟨text', hwhole', -⟩ := h.exists_done
    rw [parse_of_fits (hfits input), parse_of_fits (hfits input'), hwhole, hwhole']
    exact .ok
  · rw [hwhole] at h
    obtain ⟨fault', hwhole', hkind, hrelated⟩ := h.exists_failed nofun
    rw [parse_of_failed (hfits input) hwhole, parse_of_failed (hfits input') hwhole']
    obtain ⟨before, htext, hposition⟩ := exists_position_errorIn hwhole
    obtain ⟨before', htext', hposition'⟩ := exists_position_errorIn hwhole'
    refine .error (by rw [Fault.kind_errorIn, Fault.kind_errorIn, hkind]) ?_
    rw [hposition, hposition']
    exact hmoved _ _ _ _ htext htext' hrelated

/-- Where the rests of two texts that differ in one run of blanks stand. -/
theorem Interchanged.movedBehind {start blanks blanks' behind before before' rest rest' : List Char}
    (hne : blanks ≠ []) (h : Interchanged blanks blanks' behind rest rest')
    (htext : start ++ (blanks ++ behind) = before ++ rest)
    (htext' : start ++ (blanks' ++ behind) = before' ++ rest') :
    MovedBehind (byteLength start) (byteLength blanks) (byteLength blanks') (byteLength before)
      (byteLength before') := by
  cases h with
  | @before between _ =>
    rw [← List.append_assoc before] at htext
    rw [← List.append_assoc before'] at htext'
    have hstart := List.append_cancel_right htext
    have hstart' := List.append_cancel_right htext'
    obtain rfl := List.append_cancel_right (hstart.symm.trans hstart')
    refine .inl ⟨?_, rfl⟩
    rw [hstart, byteLength_append]
    exact Nat.le_add_right _ _
  | behind hsuffix =>
    obtain ⟨between, rfl⟩ := hsuffix
    have hpositive := Nat.pos_of_ne_zero (mt byteLength_eq_zero_iff.mp hne)
    simp only [← List.append_assoc] at htext htext'
    obtain rfl := List.append_cancel_right htext
    obtain rfl := List.append_cancel_right htext'
    simp only [MovedBehind, byteLength_append]
    omega

/-- Blanks behind a text are skipped at its end. -/
theorem sideBySide_blanks {blanks : List Char} (h : Blanks blanks) :
    SideBySide False (GoesOn blanks) := by
  have hnone : (')' ∈ blanks) = False := eq_false fun hmem => (h.plain _ hmem).2.1 rfl
  have hnil : skipBlanks blanks = [] := by
    rw [← List.append_nil blanks, skipBlanks_append h]
    rfl
  rw [← hnone]
  exact sideBySide_goesOn (.inl hnil) fun hmem => (h.plain _ hmem).2.2 rfl

section Laws

variable (hlength : settings.maxLength = none) {blanks : String}

include hlength

/-- One run of blanks outside of quoted values in place of another one. -/
theorem sameResult_interchanged {before behind blanks' : String}
    (hquotes : before.toList.count quoteMark % 2 = 0) (hblanks : Run isBlank blanks.toList)
    (hblanks' : Run isBlank blanks'.toList) :
    SameResult (MovedBehind before.utf8ByteSize blanks.utf8ByteSize blanks'.utf8ByteSize)
      (settings.parse (before ++ blanks ++ behind)).result
      (settings.parse (before ++ blanks' ++ behind)).result := by
  have htext : ∀ blanks : String, before.toList ++ (blanks.toList ++ behind.toList) =
      (before ++ blanks ++ behind).toList := by
    simp
  have hagrees : Agrees False (Interchanged blanks.toList blanks'.toList behind.toList) 0
      (wholeText settings (before.toList ++ (blanks.toList ++ behind.toList)))
      (wholeText settings (before.toList ++ (blanks'.toList ++ behind.toList))) :=
    wholeText_agrees (sideBySide_interchanged hblanks hblanks') (.before hquotes)
  rw [htext, htext] at hagrees
  refine hagrees.sameResult hlength fun front front' rest rest' hfront hfront' hrelated => ?_
  rw [← htext] at hfront hfront'
  rw [← byteLength_toList, ← byteLength_toList, ← byteLength_toList]
  exact hrelated.movedBehind hblanks.ne_nil hfront hfront'

/-- Blanks in front of a text are skipped. -/
theorem sameResult_blanks_append (h : Blanks blanks.toList) (input : String) :
    SameResult (fun position position' => position' = position + blanks.utf8ByteSize)
      (settings.parse input).result (settings.parse (blanks ++ input)).result := by
  have hagrees : Agrees False Eq 0 (wholeText settings input.toList)
      (wholeText settings (blanks ++ input).toList) := by
    have hskip : wholeText settings (blanks ++ input).toList = wholeText settings input.toList := by
      rw [wholeText, String.toList_append, skipBlanks_append h, wholeText]
    rw [hskip]
    exact .refl _
  refine hagrees.sameResult hlength fun front front' rest rest' hfront hfront' hrelated => ?_
  subst hrelated
  rw [String.toList_append, hfront, ← List.append_assoc] at hfront'
  rw [← List.append_cancel_right hfront', byteLength_append, byteLength_toList, Nat.add_comm]

/-- Blanks behind a text go on where the text ends. -/
theorem sameResult_append_blanks (h : Blanks blanks.toList) (input : String) :
    SameResult (fun _ _ => True) (settings.parse input).result
      (settings.parse (input ++ blanks)).result := by
  have hagrees : Agrees False (GoesOn blanks.toList) 0 (wholeText settings input.toList)
      (wholeText settings (input ++ blanks).toList) := by
    rw [String.toList_append]
    exact wholeText_agrees (sideBySide_blanks h) (goesOn_append _ _)
  exact hagrees.sameResult hlength fun _ _ _ _ _ _ _ => trivial

end Laws

end Results

/-- Blanks that do not stand in a quoted value are as good as any other ones: the result is the same
and an error moves with the text behind them. Blanks at the start move an error by as many bytes.
Blanks at the end change neither the filter nor the kind of an error. -/
theorem parse_spacing (limit : Nat) (report : Bool) :
    (∀ before blanks blanks' behind : String, before.toList.count quoteMark % 2 = 0 →
      Run isBlank blanks.toList → Run isBlank blanks'.toList →
      SameResult (MovedBehind before.utf8ByteSize blanks.utf8ByteSize blanks'.utf8ByteSize)
        (Settings.parse ⟨limit, none, report⟩ (before ++ blanks ++ behind)).result
        (Settings.parse ⟨limit, none, report⟩ (before ++ blanks' ++ behind)).result) ∧
    ∀ blanks input : String, Blanks blanks.toList →
      SameResult (fun position position' => position' = position + blanks.utf8ByteSize)
        (Settings.parse ⟨limit, none, report⟩ input).result
        (Settings.parse ⟨limit, none, report⟩ (blanks ++ input)).result ∧
      SameResult (fun _ _ => True) (Settings.parse ⟨limit, none, report⟩ input).result
        (Settings.parse ⟨limit, none, report⟩ (input ++ blanks)).result := by
  constructor
  · intro before blanks blanks' behind hquotes hblanks hblanks'
    exact sameResult_interchanged rfl hquotes hblanks hblanks'
  · intro blanks input hblanks
    exact ⟨sameResult_blanks_append rfl hblanks input, sameResult_append_blanks rfl hblanks input⟩

/-- Blanks behind a quoted parenthesis, in front of an error: a wide one makes it move on. -/
theorem parse_spacing_wide :
    let error : SyntaxError := ⟨.missingSeparator, 11, "expected ':' after key 'b'"⟩
    "é:'('".toList.count quoteMark % 2 = 0 ∧ Run isBlank " ".toList ∧ Run isBlank "\u3000 ".toList ∧
      (Settings.parse ⟨1, none, true⟩ ("é:'('" ++ " " ++ "or b")).result = .error error ∧
      ∃ error', (Settings.parse ⟨1, none, true⟩ ("é:'('" ++ "\u3000 " ++ "or b")).result =
          .error error' ∧
        error'.kind = .missingSeparator ∧ error'.position = 14 := by
  intro error
  have hquotes : "é:'('".toList.count quoteMark % 2 = 0 := by decide
  have hblanks : Run isBlank " ".toList := by decide +kernel
  have hwide : Run isBlank "\u3000 ".toList := by decide +kernel
  have hresult : (Settings.parse ⟨1, none, true⟩ ("é:'('" ++ " " ++ "or b")).result =
      .error error := by
    have hwhole : wholeText ⟨1, none, true⟩ ("é:'('" ++ " " ++ "or b").toList =
        .failed ⟨.noSeparator "b", []⟩ [.pair (.userDefined "é") "("] := by
      decide +kernel
    have herror : Fault.errorIn ⟨.noSeparator "b", []⟩ ("é:'('" ++ " " ++ "or b").toList =
        error := by
      decide +kernel
    rw [parse_of_failed (by nofun) hwhole, herror]
  have hsame := (parse_spacing 1 true).1 "é:'('" " " "\u3000 " "or b" hquotes hblanks hwide
  rw [hresult] at hsame
  generalize (Settings.parse ⟨1, none, true⟩ ("é:'('" ++ "\u3000 " ++ "or b")).result = result
    at hsame
  cases hsame with
  | @error _ error' hkind hmoved =>
    have hposition : MovedBehind 6 1 4 11 error'.position := hmoved
    refine ⟨hquotes, hblanks, hwide, hresult, error', rfl, hkind, ?_⟩
    simp only [MovedBehind] at hposition
    omega

end FilterQuery
