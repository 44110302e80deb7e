import FilterQuery.Proofs.Groups

/-!
# The text of a filter is written for it

A filter is written part by part: a leaf as an operand, two joined filters as a chain of their
connective. Where a part is asked for that the filter does not hold together for, there are
parentheses around it.

* `Filter.WellFormed`: the filters that can be written at all. `Derives.wellFormed`: no text is
  written for any other filter.
* `Filter.WellFormed.derives`: the text of a filter derives as the part that is asked for.
* `Filter.WellFormed.along_chars`: its groups are the ones that the filter needs.
-/

namespace FilterQuery

open Text

/-! ## Well-formed filters -/

/-- The name of every key is a run of letters, and the key is classified by the vocabulary; no value
holds a quote; the name of every tag is a run of letters and numerals. -/
def Filter.WellFormed : Filter → Prop
  | .pair key value =>
    Run isKeyChar key.name.toList ∧ (key.isBuiltIn = true ↔ key.name ∈ builtInKeys) ∧
      quoteMark ∉ value.toList
  | .tag _ name => Run isTagChar name.toList
  | .binary left _ right => left.WellFormed ∧ right.WellFormed

instance Filter.decidableWellFormed : (filter : Filter) → Decidable filter.WellFormed
  | .pair key value =>
    inferInstanceAs (Decidable (Run isKeyChar key.name.toList ∧
      (key.isBuiltIn = true ↔ key.name ∈ builtInKeys) ∧ quoteMark ∉ value.toList))
  | .tag _ name => inferInstanceAs (Decidable (Run isTagChar name.toList))
  | .binary left _ right =>
    have := left.decidableWellFormed
    have := right.decidableWellFormed
    inferInstanceAs (Decidable (left.WellFormed ∧ right.WellFormed))

theorem ValueAt.quoteMark_not_mem {value : String} {text rest : List Char}
    (h : ValueAt value text rest) : quoteMark ∉ value.toList := by
  cases h with
  | quoted hbody => rwa [String.toList_ofList]
  | bare hrun _ =>
    rw [String.toList_ofList]
    exact fun hmem => (plain_of_isValueChar (hrun.all _ hmem)).2.2 rfl

theorem Derives.wellFormed {part : Part} {n : Nat} {filter : Filter} {text rest : List Char}
    (h : Derives part n filter text rest) : filter.WellFormed := by
  induction h with
  | @pair name _ _ value hname hvalue =>
    rw [Filter.ofPair, Filter.WellFormed, Key.name_ofName, Key.isBuiltIn_ofName,
      String.toList_ofList]
    exact ⟨hname, isBuiltInKey_iff, hvalue.quoteMark_not_mem⟩
  | tag hname _ =>
    rw [Filter.WellFormed, String.toList_ofList]
    exact hname
  | group _ _ _ ih => exact ih
  | single _ ih => exact ih
  | joined _ _ _ ihLeft ihRight => exact ⟨ihLeft, ihRight⟩

theorem Denotes.wellFormed {n : Nat} {filter : Filter} {text : List Char}
    (h : Denotes n filter text) : filter.WellFormed := by
  cases h with
  | intro _ derivation _ => exact derivation.wellFormed

theorem Key.ofName_name {key : Key} (h : key.isBuiltIn = true ↔ key.name ∈ builtInKeys) :
    Key.ofName key.name = key := by
  rw [← isBuiltInKey_iff] at h
  cases key with
  | builtIn name => exact if_pos (h.mp rfl)
  | userDefined name => exact if_neg fun hname => Bool.false_ne_true (h.mpr hname)

/-! ## The derivation of a text -/

/-- A disjunction asks for the least, an operand for the most. -/
theorem Part.binding_bounds (part : Part) :
    (Part.chain .or).binding ≤ part.binding ∧ part.binding ≤ Part.operand.binding := by
  match part with
  | .operand | .chain .and | .chain .or => decide

theorem Derives.weaken {part part' : Part} {n : Nat} {filter : Filter} {text rest : List Char}
    (h : Derives part n filter text rest) (hle : part'.binding ≤ part.binding) :
    Derives part' n filter text rest := by
  match part, part' with
  | .operand, .operand | .chain .and, .chain .and | .chain .or, .chain .or => exact h
  | .operand, .chain .and | .chain .and, .chain .or => exact .single h
  | .operand, .chain .or => exact .single (.single h)
  | .chain .and, .operand | .chain .or, .operand | .chain .or, .chain .and =>
    exact absurd hle (by decide)

/-- A value without quotes in it can be read back from its text, if no value character follows. -/
theorem valueAt_valueChars {value : String} {rest : List Char} (h : quoteMark ∉ value.toList)
    (hrest : Stops isValueChar rest) : ValueAt value (Filter.valueChars value ++ rest) rest := by
  rw [Filter.valueChars]
  split
  · next hbare =>
    obtain ⟨hne, hall⟩ := isBare_iff.mp hbare
    have hvalue := ValueAt.bare ⟨hne, hall⟩ hrest
    rwa [String.ofList_toList] at hvalue
  · have hvalue : ValueAt _ _ rest := .quoted h
    rw [String.ofList_toList] at hvalue
    simpa using hvalue

namespace Filter

/-- The part that a filter is written as if nothing else is asked for. -/
def part : Filter → Part
  | binary _ connective _ => .chain connective
  | _ => .operand

theorem binding_part (filter : Filter) : filter.part.binding = filter.binding := by
  cases filter <;> rfl

end Filter

section Text

variable {filter : Filter}

/-- A filter can be written as any part if it can be written as its own part: either it holds
together for that part, or there are parentheses around it. -/
theorem derives_enclose (part : Part)
    (h : ∀ {rest}, Stops isValueChar rest →
      Derives filter.part filter.groupDepth filter (filter.chars ++ rest) rest)
    {rest : List Char} (hrest : Stops isValueChar rest) :
    Derives part (filter.groupDepthIn part) filter
      (Filter.enclose (filter.enclosedIn part) filter.chars ++ rest) rest := by
  rcases henclosed : filter.enclosedIn part
  · have hle : part.binding ≤ filter.part.binding := by
      rw [Filter.enclosedIn, decide_eq_false_iff_not, Nat.not_lt] at henclosed
      rwa [filter.binding_part]
    rw [Filter.groupDepthIn, henclosed]
    exact (h hrest).weaken hle
  · have hclosing : Stops isValueChar (')' :: rest) := stops_cons.mpr (by decide +kernel)
    have hinside : Derives (.chain .or) filter.groupDepth filter
        (filter.chars ++ ([] ++ ')' :: rest)) ([] ++ ')' :: rest) :=
      (h hclosing).weaken filter.part.binding_bounds.1
    have hgroup := Derives.group blanks_nil hinside blanks_nil
    rw [Filter.groupDepthIn, henclosed]
    simpa [Filter.enclose] using hgroup.weaken part.binding_bounds.2

/-- The text of a filter derives as every part, with as few groups as the part allows. -/
theorem Filter.WellFormed.derives (h : filter.WellFormed) {rest : List Char}
    (hrest : Stops isValueChar rest) :
    Derives filter.part filter.groupDepth filter (filter.chars ++ rest) rest := by
  induction filter generalizing rest with
  | pair key value =>
    obtain ⟨hname, hclass, hvalue⟩ := h
    have hpair := Derives.pair hname (valueAt_valueChars hvalue hrest)
    rw [Filter.ofPair, String.ofList_toList, Key.ofName_name hclass] at hpair
    simpa [Filter.chars, Filter.part, Filter.groupDepth] using hpair
  | tag polarity name =>
    have htag : Derives .operand 0 (.tag polarity _) _ rest :=
      .tag h (hrest.mono fun _ => isValueChar_of_isTagChar)
    rw [String.ofList_toList] at htag
    exact htag
  | binary left connective right ihLeft ihRight =>
    have hspace : Stops isValueChar
        ([' '] ++ (connective.word.toList ++ ([' '] ++
          (Filter.enclose (right.enclosedIn connective.member) right.chars ++ rest)))) :=
      stops_cons.mpr (by decide +kernel)
    have hleft := derives_enclose (.chain connective) (ihLeft h.1) hspace
    have hright := derives_enclose connective.member (ihRight h.2) hrest
    have hword : continuesWord ([' '] ++
        (Filter.enclose (right.enclosedIn connective.member) right.chars ++ rest)) = false :=
      continuesWord_eq_false_iff.mpr (stops_cons.mpr (by decide +kernel))
    have hjoined := hleft.joined (.word blanks_space blanks_space hword) hright
    rw [Filter.groupDepth_binary, Filter.chars, Filter.parenthesizedLeft_eq,
      Filter.parenthesizedRight_eq]
    simpa [Filter.part] using hjoined

theorem Filter.WellFormed.denotes (h : filter.WellFormed) :
    Denotes filter.groupDepth filter filter.chars := by
  have derivation := (h.derives (stops_nil isValueChar)).weaken filter.part.binding_bounds.1
  rw [List.append_nil] at derivation
  exact .intro blanks_nil derivation blanks_nil

end Text

/-! ## The groups of a text -/

theorem along_valueChars {value : String} {groups : Groups} (h : quoteMark ∉ value.toList)
    (hquoted : groups.quoted = false) : groups.along (Filter.valueChars value) = groups := by
  obtain ⟨consumed, htext, hconsumed⟩ := (valueAt_valueChars h (stops_nil isValueChar)).along
  rw [List.append_cancel_right htext]
  exact hconsumed groups hquoted

theorem along_enclose {filter : Filter} (parenthesized : Bool)
    (h : ∀ {groups : Groups}, groups.quoted = false →
      groups.along filter.chars = groups.through filter.groupDepth filter.groupTotal)
    {groups : Groups} (hquoted : groups.quoted = false) :
    groups.along (Filter.enclose parenthesized filter.chars) =
      groups.through (filter.groupDepth + parenthesized.toNat)
        (filter.groupTotal + parenthesized.toNat) := by
  cases parenthesized with
  | false => exact h hquoted
  | true =>
    have henter := groups.quoted_enter.trans hquoted
    have hinside := (groups.enter.quoted_through filter.groupDepth filter.groupTotal).trans henter
    have hopen : groups.along ['('] = groups.enter := Groups.pass_open hquoted
    rw [Filter.enclose, if_pos rfl, Groups.along_append, Groups.along_append, hopen, h henter,
      Groups.along_cons, Groups.along_nil, Groups.pass_close hinside, Groups.leave_through_enter]
    rfl

/-- The text of a filter has exactly the groups that the filter needs. -/
theorem Filter.WellFormed.along_chars {filter : Filter} (h : filter.WellFormed) {groups : Groups}
    (hquoted : groups.quoted = false) :
    groups.along filter.chars = groups.through filter.groupDepth filter.groupTotal := by
  induction filter generalizing groups with
  | pair key value =>
    obtain ⟨hname, -, hvalue⟩ := h
    have hcolon : ∀ c ∈ [':'], Plain c := by simp [Plain, quoteMark]
    rw [Filter.chars, Groups.along_append, Groups.along_append, Groups.along_plain hname.plain,
      Groups.along_plain hcolon, along_valueChars hvalue hquoted]
    exact groups.through_zero.symm
  | tag polarity name =>
    rw [Filter.chars, Groups.along_cons, Groups.pass_plain (plain_sign polarity),
      Groups.along_plain fun c hc => plain_of_isTagChar (h.all c hc)]
    exact groups.through_zero.symm
  | binary left connective right ihLeft ihRight =>
    have hword : ∀ c ∈ [' '] ++ connective.word.toList ++ [' '], Plain c := by
      cases connective <;> simp [Plain, quoteMark, Connective.word]
    rw [Filter.chars, Groups.along_append, Groups.along_append,
      along_enclose _ (ihLeft h.1) hquoted, Groups.along_plain hword,
      along_enclose _ (ihRight h.2) ((groups.quoted_through _ _).trans hquoted),
      Groups.through_through]
    rfl

theorem Filter.WellFormed.groupsOf_chars {filter : Filter} (h : filter.WellFormed) :
    groupsOf filter.chars = Groups.start.through filter.groupDepth filter.groupTotal :=
  h.along_chars rfl

end FilterQuery
