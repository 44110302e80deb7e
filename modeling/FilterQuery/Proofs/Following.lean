import FilterQuery.Proofs.Grammar

/-!
# What follows a part

A derivation looks past its part at one character only: a name or a bare value must not go on
there. So the rest of the text may be replaced by any other rest that goes on with no new value
character.

* `Replaces rest rest'`: `rest'` may stand where `rest` stands. It does if it starts with no value
  character (`replaces_of_stops`), or like `rest` (`replaces_of_head?`).
* `ValueAt.followed`, `Joint.followed`, `Derives.followed`: what is taken up, which is never
  nothing, and that it is taken up in front of any other such rest.
* `Joint.replace`, `Derives.replace`: the same where it is known what is taken up.
-/

namespace FilterQuery

open Text

/-- The second text may stand where the first one follows a part: it starts with a value character
only if the first one does so too, and with the same one. -/
def Replaces (rest rest' : List Char) : Prop :=
  ∀ c ∈ rest'.head?, isValueChar c = true → rest.head? = some c

section Replaces

variable {rest rest' : List Char}

theorem replaces_of_stops (h : Stops isValueChar rest') : Replaces rest rest' := by
  intro c hc hvalue
  rw [h c hc] at hvalue
  cases hvalue

theorem replaces_of_head? (h : rest.head? = rest'.head?) : Replaces rest rest' := by
  intro c hc _
  rw [h]
  exact hc

theorem replaces_of_ne_nil {before : List Char} (hne : before ≠ []) (rest rest' : List Char) :
    Replaces (before ++ rest) (before ++ rest') := by
  obtain ⟨c, tail, rfl⟩ := List.exists_cons_of_ne_nil hne
  exact replaces_of_head? rfl

theorem replaces_append (hne : rest ≠ []) (more : List Char) : Replaces rest (rest ++ more) := by
  simpa using replaces_of_ne_nil hne [] more

theorem Replaces.append (h : Replaces rest rest') (before : List Char) :
    Replaces (before ++ rest) (before ++ rest') := by
  by_cases hne : before = []
  · subst hne
    exact h
  · exact replaces_of_ne_nil hne rest rest'

theorem Replaces.stops {p : Char → Bool} (h : Replaces rest rest')
    (hp : ∀ c, p c = true → isValueChar c = true) (hstops : Stops p rest) : Stops p rest' := by
  intro c hc
  apply Bool.eq_false_iff.mpr
  intro hpc
  have hhead := h c hc (hp c hpc)
  rw [hstops c hhead] at hpc
  cases hpc

theorem isValueChar_of_continues {c : Char} (h : (isAlphanumeric c || c == ':') = true) :
    isValueChar c = true := by
  rcases Bool.or_eq_true_iff.mp h with h | h <;> simp [isValueChar, h]

theorem Replaces.continuesWord (h : Replaces rest rest') (hword : continuesWord rest = false) :
    continuesWord rest' = false :=
  continuesWord_eq_false_iff.mpr
    (h.stops (fun _ => isValueChar_of_continues) (continuesWord_eq_false_iff.mp hword))

end Replaces

/-! ## Values and joints -/

theorem ValueAt.followed {value : String} {text rest : List Char} (h : ValueAt value text rest) :
    ∃ consumed, text = consumed ++ rest ∧
      ∀ {rest'}, Replaces rest rest' → ValueAt value (consumed ++ rest') rest' := by
  cases h with
  | @quoted body _ hbody =>
    refine ⟨quoteMark :: (body ++ [quoteMark]), by simp, fun {rest'} _ => ?_⟩
    have hvalue : ValueAt (String.ofList body) _ rest' := .quoted hbody
    simpa using hvalue
  | @bare run _ hrun hrest =>
    exact ⟨run, rfl, fun hreplaces => .bare hrun (hreplaces.stops (fun _ h => h) hrest)⟩

theorem Joint.followed {connective : Connective} {text rest : List Char}
    (h : Joint connective text rest) :
    ∃ between, text = between ++ rest ∧ between ≠ [] ∧
      ∀ {rest'}, Replaces rest rest' → Joint connective (between ++ rest') rest' := by
  cases h with
  | @word _ before behind _ hbefore hbehind hword =>
    refine ⟨before ++ (connective.word.toList ++ behind), by simp, ?_, fun {rest'} hreplaces => ?_⟩
    · cases connective <;> simp [Connective.word]
    · have joint : Joint connective _ rest' :=
        .word hbefore hbehind ((hreplaces.append behind).continuesWord hword)
      simpa using joint
  | @blanks between _ hbetween hne =>
    exact ⟨between, rfl, hne, fun _ => .blanks hbetween hne⟩

theorem Joint.replace {connective : Connective} {between rest rest' : List Char}
    (h : Joint connective (between ++ rest) rest) (hreplaces : Replaces rest rest') :
    Joint connective (between ++ rest') rest' := by
  obtain ⟨between', htext, -, hbetween⟩ := h.followed
  obtain rfl := List.append_cancel_right htext
  exact hbetween hreplaces

/-! ## Parts -/

/-- A part takes up text, and takes up the same in front of any other rest. -/
theorem Derives.followed {part : Part} {n : Nat} {filter : Filter} {text rest : List Char}
    (h : Derives part n filter text rest) :
    ∃ consumed, text = consumed ++ rest ∧ consumed ≠ [] ∧
      ∀ {rest'}, Replaces rest rest' → Derives part n filter (consumed ++ rest') rest' := by
  induction h with
  | @pair name text rest value hname hvalue =>
    obtain ⟨consumed, rfl, hconsumed⟩ := hvalue.followed
    refine ⟨name ++ ':' :: consumed, by simp, by simp, fun {rest'} hreplaces => ?_⟩
    simpa using Derives.pair hname (hconsumed hreplaces)
  | @tag polarity name rest hname hrest =>
    refine ⟨polarity.sign :: name, rfl, List.cons_ne_nil _ _, fun hreplaces => ?_⟩
    exact .tag hname (hreplaces.stops (fun _ => isValueChar_of_isTagChar) hrest)
  | @group n filter before text behind rest hbefore _ hbehind ih =>
    obtain ⟨consumed, rfl, -, hconsumed⟩ := ih
    refine ⟨'(' :: (before ++ (consumed ++ (behind ++ [')']))), by simp, List.cons_ne_nil _ _,
      fun {rest'} _ => ?_⟩
    have hclosing : Replaces (')' :: rest) (')' :: rest') := replaces_of_head? rfl
    simpa using Derives.group hbefore (hconsumed (hclosing.append behind)) hbehind
  | single _ ih =>
    obtain ⟨consumed, rfl, hne, hconsumed⟩ := ih
    exact ⟨consumed, rfl, hne, fun hreplaces => .single (hconsumed hreplaces)⟩
  | @joined connective m n left right text middle middle' rest _ joint _ ihLeft ihRight =>
    obtain ⟨consumed, rfl, hne, hconsumed⟩ := ihLeft
    obtain ⟨consumed', rfl, hne', hconsumed'⟩ := ihRight
    obtain ⟨between, rfl, -, hbetween⟩ := joint.followed
    refine ⟨consumed ++ (between ++ consumed'), by simp, by simp [hne], fun {rest'} hreplaces => ?_⟩
    -- The text behind the left members now ends differently, but it starts as before.
    have hmiddle : Replaces (consumed' ++ rest) (consumed' ++ rest') := hreplaces.append consumed'
    simpa using (hconsumed (hmiddle.append between)).joined (hbetween hmiddle)
      (hconsumed' hreplaces)

theorem Derives.replace {part : Part} {n : Nat} {filter : Filter} {consumed rest rest' : List Char}
    (h : Derives part n filter (consumed ++ rest) rest) (hreplaces : Replaces rest rest') :
    Derives part n filter (consumed ++ rest') rest' := by
  obtain ⟨consumed', htext, -, hconsumed⟩ := h.followed
  obtain rfl := List.append_cancel_right htext
  exact hconsumed hreplaces

end FilterQuery
