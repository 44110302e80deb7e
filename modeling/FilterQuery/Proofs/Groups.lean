import FilterQuery.Filter.Render
import FilterQuery.Proofs.Grammar

/-!
# The groups of a text

Parentheses outside of quoted values open and close groups. They are counted along the text, by a
scan that knows nothing of the grammar.

* `Groups`, `Groups.along`, `groupsOf`: how many groups are open behind a text, how many were open
  at once, and how many were opened at all.
* `Derives.along`: a derivation closes the groups that it opens, and its nesting is the one that the
  scan counts.
* `Filter.groupDepth`, `Filter.groupTotal`: the groups that the text of a filter needs.
  `Derives.groupDepthIn_le` and `Derives.along`: no text for the same filter has less of them.
-/

namespace FilterQuery

open Text

/-- The groups along a text. -/
@[ext]
structure Groups where
  /-- Whether the text ends inside of a quoted value. -/
  quoted : Bool
  /-- How many groups are open. -/
  opened : Nat
  /-- How many groups were open at once. -/
  deepest : Nat
  /-- How many groups were opened. -/
  total : Nat
  opened_le_deepest : opened ≤ deepest

namespace Groups

/-- The groups at the start of a text. -/
def start : Groups :=
  ⟨false, 0, 0, 0, Nat.le_refl 0⟩

/-- A group opens. -/
def enter (groups : Groups) : Groups :=
  { groups with
    opened := groups.opened + 1
    deepest := max groups.deepest (groups.opened + 1)
    total := groups.total + 1
    opened_le_deepest := Nat.le_max_right _ _ }

/-- A group closes. -/
def leave (groups : Groups) : Groups :=
  { groups with
    opened := groups.opened - 1
    opened_le_deepest := Nat.le_trans (Nat.sub_le _ _) groups.opened_le_deepest }

/-- The groups behind one more character. -/
def pass (groups : Groups) (c : Char) : Groups :=
  if c = quoteMark then { groups with quoted := !groups.quoted }
  else if groups.quoted then groups
  else if c = '(' then groups.enter
  else if c = ')' then groups.leave
  else groups

/-- The groups behind some more text. -/
def along (groups : Groups) (text : List Char) : Groups :=
  text.foldl pass groups

/-- The groups behind a text that opens and closes `count` groups, `depth` of them at once. -/
def through (groups : Groups) (depth count : Nat) : Groups :=
  { groups with
    deepest := max groups.deepest (groups.opened + depth)
    total := groups.total + count
    opened_le_deepest := Nat.le_trans groups.opened_le_deepest (Nat.le_max_left _ _) }

variable {groups : Groups}

@[simp]
theorem along_nil (groups : Groups) : groups.along [] = groups := rfl

@[simp]
theorem along_cons (groups : Groups) (c : Char) (text : List Char) :
    groups.along (c :: text) = (groups.pass c).along text := rfl

@[simp]
theorem along_append (groups : Groups) (text rest : List Char) :
    groups.along (text ++ rest) = (groups.along text).along rest :=
  List.foldl_append

theorem pass_plain {c : Char} (h : Plain c) : groups.pass c = groups := by
  obtain ⟨hopen, hclose, hquote⟩ := h
  simp [pass, hopen, hclose, hquote]

theorem along_plain {text : List Char} (h : ∀ c ∈ text, Plain c) : groups.along text = groups := by
  induction text with
  | nil => rfl
  | cons c text ih =>
    rw [along_cons, pass_plain (h c List.mem_cons_self),
      ih fun c' hc' => h c' (List.mem_cons_of_mem c hc')]

theorem along_inside {body : List Char} (hquoted : groups.quoted = true) (h : quoteMark ∉ body) :
    groups.along body = groups := by
  induction body with
  | nil => rfl
  | cons c body ih =>
    rw [List.mem_cons, not_or] at h
    have hc : groups.pass c = groups := by
      rw [pass, if_neg fun hc => h.1 hc.symm, if_pos hquoted]
    rw [along_cons, hc, ih h.2]

theorem pass_quote (groups : Groups) :
    groups.pass quoteMark = { groups with quoted := !groups.quoted } := by
  rw [pass, if_pos rfl]

/-- A quoted value opens no group, whatever is in it. -/
theorem along_quotedValue {body : List Char} (hquoted : groups.quoted = false)
    (h : quoteMark ∉ body) : groups.along (quoteMark :: (body ++ [quoteMark])) = groups := by
  have hopen : (groups.pass quoteMark).quoted = true := by
    rw [pass_quote]
    exact congrArg not hquoted
  rw [along_cons, along_append, along_inside hopen h, along_cons, along_nil, pass_quote,
    pass_quote]
  simp

example : start.along "a:'(x'".toList = start := by
  rfl

@[simp]
theorem quoted_enter (groups : Groups) : groups.enter.quoted = groups.quoted := rfl

@[simp]
theorem quoted_through (groups : Groups) (depth count : Nat) :
    (groups.through depth count).quoted = groups.quoted := rfl

theorem pass_open (h : groups.quoted = false) : groups.pass '(' = groups.enter := by
  rw [pass, if_neg (by decide), if_neg (by simp [h]), if_pos rfl]

theorem pass_close (h : groups.quoted = false) : groups.pass ')' = groups.leave := by
  rw [pass, if_neg (by decide), if_neg (by simp [h]), if_neg (by decide), if_pos rfl]

@[simp]
theorem through_zero (groups : Groups) : groups.through 0 0 = groups := by
  have := groups.opened_le_deepest
  ext <;> simp [through, this]

theorem through_through (groups : Groups) (m n j k : Nat) :
    (groups.through m j).through n k = groups.through (max m n) (j + k) := by
  ext <;> simp only [through] <;> omega

/-- A group around a text with `n` nested groups has `n + 1` of them. -/
theorem leave_through_enter (groups : Groups) (n k : Nat) :
    (groups.enter.through n k).leave = groups.through (n + 1) (k + 1) := by
  ext <;> simp only [through, enter, leave] <;> omega

end Groups

/-- The groups of a whole text. -/
def groupsOf (text : List Char) : Groups :=
  Groups.start.along text

theorem groupsOf_append (text rest : List Char) :
    groupsOf (text ++ rest) = (groupsOf text).along rest :=
  Groups.along_append _ _ _

/-! ## The groups that a filter needs -/

/-- How tightly a filter has to hold together to be written as the part without parentheses. -/
def Part.binding : Part → Nat
  | .operand => 3
  | .chain connective => connective.binding

/-- Whether the filter needs parentheses to be written as the part. -/
def Filter.enclosedIn (part : Part) (filter : Filter) : Bool :=
  filter.binding < part.binding

/-- How deep groups nest in the text of a filter. -/
def Filter.groupDepth : Filter → Nat
  | .binary left connective right =>
    max (left.groupDepth + (parenthesizedLeft connective left).toNat)
      (right.groupDepth + (parenthesizedRight connective right).toNat)
  | _ => 0

/-- How many groups are in the text of a filter. -/
def Filter.groupTotal : Filter → Nat
  | .binary left connective right =>
    (left.groupTotal + (parenthesizedLeft connective left).toNat) +
      (right.groupTotal + (parenthesizedRight connective right).toNat)
  | _ => 0

/-- How deep groups nest where a filter is written as the part. -/
def Filter.groupDepthIn (part : Part) (filter : Filter) : Nat :=
  filter.groupDepth + (filter.enclosedIn part).toNat

/-- How many groups there are where a filter is written as the part. -/
def Filter.groupTotalIn (part : Part) (filter : Filter) : Nat :=
  filter.groupTotal + (filter.enclosedIn part).toNat

namespace Filter

theorem parenthesizedLeft_eq (connective : Connective) (filter : Filter) :
    parenthesizedLeft connective filter = filter.enclosedIn (.chain connective) := rfl

theorem parenthesizedRight_eq (connective : Connective) (filter : Filter) :
    parenthesizedRight connective filter = filter.enclosedIn connective.member := by
  cases connective <;> exact decide_eq_decide.mpr Nat.lt_succ_iff.symm

theorem groupDepth_binary (left right : Filter) (connective : Connective) :
    (binary left connective right).groupDepth =
      max (left.groupDepthIn (.chain connective)) (right.groupDepthIn connective.member) := by
  rw [groupDepth, parenthesizedLeft_eq, parenthesizedRight_eq]
  rfl

theorem groupTotal_binary (left right : Filter) (connective : Connective) :
    (binary left connective right).groupTotal =
      left.groupTotalIn (.chain connective) + right.groupTotalIn connective.member := by
  rw [groupTotal, parenthesizedLeft_eq, parenthesizedRight_eq]
  rfl

theorem enclosedIn_binary (left right : Filter) (connective : Connective) :
    (binary left connective right).enclosedIn (.chain connective) = false := by
  simp [enclosedIn, Part.binding, binding]

/-- A whole filter is written without parentheses around it. -/
theorem enclosedIn_or (filter : Filter) : filter.enclosedIn (.chain .or) = false := by
  rcases filter with _ | _ | ⟨left, connective, right⟩
  · rfl
  · rfl
  · cases connective <;> rfl

/-- A filter that stands without parentheses as a member of a chain does so as the chain. -/
theorem enclosedIn_chain_le (connective : Connective) (filter : Filter) :
    (filter.enclosedIn (.chain connective)).toNat ≤
      (filter.enclosedIn connective.member).toNat := by
  rcases h : filter.enclosedIn (.chain connective)
  · exact Nat.zero_le _
  · have hmember : filter.enclosedIn connective.member = true := by
      rw [enclosedIn, decide_eq_true_eq] at h ⊢
      refine Nat.lt_trans h ?_
      cases connective <;> decide
    exact Nat.le_of_eq (congrArg Bool.toNat hmember.symm)

end Filter

/-! ## The groups of a derivation -/

/-- A value opens and closes no group. -/
theorem ValueAt.along {value : String} {text rest : List Char} (h : ValueAt value text rest) :
    ∃ consumed, text = consumed ++ rest ∧
      ∀ groups : Groups, groups.quoted = false → groups.along consumed = groups := by
  cases h with
  | @quoted body _ hbody =>
    refine ⟨quoteMark :: (body ++ [quoteMark]), by simp, fun groups hquoted => ?_⟩
    exact Groups.along_quotedValue hquoted hbody
  | @bare run _ hrun hrest =>
    exact ⟨run, rfl, fun groups _ =>
      Groups.along_plain fun c hc => plain_of_isValueChar (hrun.all c hc)⟩

theorem Blanks.plain {blanks : List Char} (h : Blanks blanks) : ∀ c ∈ blanks, Plain c :=
  fun c hc => plain_of_isBlank (h c hc)

theorem Joint.plain {connective : Connective} {text rest : List Char}
    (h : Joint connective text rest) :
    ∃ between, text = between ++ rest ∧ ∀ c ∈ between, Plain c := by
  cases h with
  | @word _ before behind _ hbefore hbehind hword =>
    refine ⟨before ++ (connective.word.toList ++ behind), by simp, fun c hc => ?_⟩
    rcases List.mem_append.mp hc with hc | hc
    · exact hbefore.plain c hc
    · rcases List.mem_append.mp hc with hc | hc
      · exact plain_word connective c hc
      · exact hbehind.plain c hc
  | @blanks between _ hbetween hne => exact ⟨between, rfl, hbetween.plain⟩

/-- What a derivation takes up nests as deep as the derivation and closes all groups that it opens.
It has no fewer groups than the text of the filter. -/
theorem Derives.along {part : Part} {n : Nat} {filter : Filter} {text rest : List Char}
    (h : Derives part n filter text rest) :
    ∃ consumed k, text = consumed ++ rest ∧ filter.groupTotalIn part ≤ k ∧
      ∀ groups : Groups, groups.quoted = false → groups.along consumed = groups.through n k := by
  induction h with
  | @pair name text rest value hname hvalue =>
    obtain ⟨consumed, rfl, hconsumed⟩ := hvalue.along
    refine ⟨name ++ ':' :: consumed, 0, by simp, Nat.le_refl 0, fun groups hquoted => ?_⟩
    rw [Groups.along_append, Groups.along_plain hname.plain,
      Groups.along_cons, Groups.pass_plain ⟨by decide, by decide, by decide⟩,
      hconsumed groups hquoted, Groups.through_zero]
  | @tag polarity name rest hname hrest =>
    refine ⟨polarity.sign :: name, 0, rfl, Nat.le_refl 0, fun groups _ => ?_⟩
    rw [Groups.along_cons, Groups.pass_plain (plain_sign polarity),
      Groups.along_plain fun c hc => plain_of_isTagChar (hname.all c hc), Groups.through_zero]
  | @group n filter before text behind rest hbefore _ hbehind ih =>
    obtain ⟨consumed, k, rfl, hk, hconsumed⟩ := ih
    refine ⟨'(' :: (before ++ (consumed ++ (behind ++ [')']))), k + 1, by simp, ?_,
      fun groups hquoted => ?_⟩
    · have := Bool.toNat_le (filter.enclosedIn .operand)
      rw [Filter.groupTotalIn] at hk ⊢
      omega
    · have henter := groups.quoted_enter.trans hquoted
      have hinside := (groups.enter.quoted_through n k).trans henter
      rw [Groups.along_cons, Groups.pass_open hquoted, Groups.along_append,
        Groups.along_plain hbefore.plain, Groups.along_append, hconsumed _ henter,
        Groups.along_append, Groups.along_plain hbehind.plain, Groups.along_cons,
        Groups.pass_close hinside, Groups.along_nil, Groups.leave_through_enter]
  | @single connective n filter text rest _ ih =>
    obtain ⟨consumed, k, rfl, hk, hconsumed⟩ := ih
    refine ⟨consumed, k, rfl, Nat.le_trans ?_ hk, hconsumed⟩
    exact Nat.add_le_add_left (filter.enclosedIn_chain_le connective) _
  | @joined connective m n left right text middle middle' rest _ joint _ ihLeft ihRight =>
    obtain ⟨consumed, j, rfl, hj, hconsumed⟩ := ihLeft
    obtain ⟨consumed', k, rfl, hk, hconsumed'⟩ := ihRight
    obtain ⟨between, rfl, hbetween⟩ := joint.plain
    refine ⟨consumed ++ (between ++ consumed'), j + k, by simp, ?_, fun groups hquoted => ?_⟩
    · rw [Filter.groupTotalIn, Filter.groupTotal_binary, Filter.enclosedIn_binary,
        Bool.toNat_false, Nat.add_zero]
      exact Nat.add_le_add hj hk
    · rw [Groups.along_append, hconsumed groups hquoted, Groups.along_append,
        Groups.along_plain hbetween, hconsumed' (groups.through m j) hquoted,
        Groups.through_through]

/-- No derivation of a filter nests less deep than the text of the filter. -/
theorem Derives.groupDepthIn_le {part : Part} {n : Nat} {filter : Filter} {text rest : List Char}
    (h : Derives part n filter text rest) : filter.groupDepthIn part ≤ n := by
  induction h with
  | pair _ _ => exact Nat.le_refl 0
  | tag _ _ => exact Nat.le_refl 0
  | @group n filter _ _ _ _ _ _ _ ih =>
    have := Bool.toNat_le (filter.enclosedIn .operand)
    rw [Filter.groupDepthIn] at ih ⊢
    omega
  | @single connective _ filter _ _ _ ih =>
    exact Nat.le_trans (Nat.add_le_add_left (filter.enclosedIn_chain_le connective) _) ih
  | joined _ _ _ ihLeft ihRight =>
    rw [Filter.groupDepthIn, Filter.groupDepth_binary, Filter.enclosedIn_binary]
    exact Nat.max_le.mpr
      ⟨Nat.le_trans ihLeft (Nat.le_max_left _ _), Nat.le_trans ihRight (Nat.le_max_right _ _)⟩

/-- The groups of a whole text that is written for a filter. -/
theorem Denotes.groupsOf {n : Nat} {filter : Filter} {text : List Char}
    (h : Denotes n filter text) :
    filter.groupDepth ≤ n ∧
      ∃ k, filter.groupTotal ≤ k ∧ groupsOf text = Groups.start.through n k := by
  cases h with
  | @intro before text behind hbefore derivation hbehind =>
    obtain ⟨consumed, k, rfl, hk, hconsumed⟩ := derivation.along
    have hdepth := derivation.groupDepthIn_le
    rw [Filter.groupDepthIn, Filter.enclosedIn_or] at hdepth
    rw [Filter.groupTotalIn, Filter.enclosedIn_or] at hk
    refine ⟨hdepth, k, hk, ?_⟩
    rw [FilterQuery.groupsOf, Groups.along_append, Groups.along_plain hbefore.plain,
      Groups.along_append, hconsumed _ rfl, Groups.along_plain hbehind.plain]

theorem Denotes.deepest_groupsOf {n : Nat} {filter : Filter} {text : List Char}
    (h : Denotes n filter text) :
    (FilterQuery.groupsOf text).deepest = n := by
  obtain ⟨-, k, -, hgroups⟩ := h.groupsOf
  rw [hgroups]
  exact (Nat.zero_max _).trans (Nat.zero_add n)

end FilterQuery
