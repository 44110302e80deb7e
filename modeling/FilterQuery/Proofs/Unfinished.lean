import FilterQuery.Proofs.Faithful

/-!
# How deep the readers may ask each other

The readers in place are given a bound on how deep they may ask each other, and come to a stop where
it is met. Nobody goes back from such a stop, so that a course which has another end has never met
the bound, and is the same under any higher one.

* `Course.KeptIn`: the course is the same in another one, unless it is unfinished.
  `Course.KeptIn.bind` and the lemmas after it: one act after another, operands that may be given
  up, and readers that are asked.
* `body_kept`: what a reader does, given the readers that it asks. `perform_kept`: readers that ask
  each other under two bounds.
* `perform_eq_body`: so where the bound suffices, the readers are as good as without one.
  `readText_eq_course`: for a text, four times its length and four more suffices.
-/

namespace FilterQuery

open Text Act

/-- The course is unfinished, or the other one is the same. -/
def Course.KeptIn {α : Type} (course course' : Course α) : Prop :=
  course.outcome = .error .unfinished ∨ course' = course

section KeptIn

variable {α β : Type} {entry : Desk}

theorem Course.KeptIn.refl (course : Course α) : course.KeptIn course :=
  .inr rfl

theorem Course.KeptIn.trans {course course' course'' : Course α} (h : course.KeptIn course')
    (h' : course'.KeptIn course'') : course.KeptIn course'' := by
  rcases h with hstop | rfl
  · exact .inl hstop
  · exact h'

/-- One act after another. -/
theorem Course.KeptIn.bind {act act' : Act α} {next next' : α → Act β}
    (h : (act entry).KeptIn (act' entry))
    (hnext : ∀ value desk, (next value desk).KeptIn (next' value desk)) :
    ((act >>= next) entry).KeptIn ((act' >>= next') entry) := by
  rw [Act.bind_eq, Act.bind_eq, Course.andThen, Course.andThen]
  rcases h with hstop | hsame
  · rw [hstop]
    exact .inl rfl
  · rw [hsame]
    rcases houtcome : (act entry).outcome with stop | value
    · exact .refl _
    · rcases hnext value (act entry).desk with hstop | hsecond
      · exact .inl hstop
      · dsimp only
        rw [hsecond]
        exact .refl _

/-- An operand is not given up because it is unfinished. -/
theorem Course.KeptIn.orGoBack {act act' : Act Filter} (h : (act entry).KeptIn (act' entry))
    (start : Nat) : (orGoBack start act entry).KeptIn (orGoBack start act' entry) := by
  rw [orGoBack_eq, orGoBack_eq]
  rcases h with hstop | hsame
  · rw [hstop]
    exact .inl rfl
  · rw [hsame]
    exact .refl _

theorem Course.KeptIn.asCall {reader : Reader} {act act' : Act reader.Value}
    (h : (act entry).KeptIn (act' entry)) :
    (asCall reader act entry).KeptIn (asCall reader act' entry) := by
  rcases h with hstop | hsame
  · exact .inl hstop
  · rw [Act.asCall, Act.asCall, hsame]
    exact .refl _

end KeptIn

/-- What a reader does is kept if what it asks is kept. -/
theorem body_kept {settings : Settings} {ask ask' : (reader : Reader) → Act reader.Value}
    (hask : ∀ reader desk, (ask reader desk).KeptIn (ask' reader desk)) (reader : Reader)
    (entry : Desk) :
    (reader.body settings ask entry).KeptIn (reader.body settings ask' entry) := by
  cases reader with
  | disjunction => exact (hask .conjunction entry).bind fun left desk => hask _ desk
  | conjunction => exact (hask .operand entry).bind fun left desk => hask _ desk
  | moreDisjuncts left =>
    refine (Course.KeptIn.refl _).bind fun taken desk => ?_
    cases taken with
    | true => exact (hask .conjunction desk).bind fun right desk => hask _ desk
    | false => exact .refl _
  | moreConjuncts left =>
    refine (Course.KeptIn.refl _).bind fun taken desk => ?_
    cases taken with
    | true => exact (hask .operand desk).bind fun right desk => hask _ desk
    | false =>
      refine (hask .joinedOperand desk).bind fun found desk => ?_
      cases found with
      | some right => exact hask _ desk
      | none => exact .refl _
  | joinedOperand =>
    refine (Course.KeptIn.refl _).bind fun start desk => ?_
    refine (Course.KeptIn.refl _).bind fun skipped desk => ?_
    refine (Course.KeptIn.refl _).bind fun ends desk => ?_
    split
    · exact .refl _
    · refine (Course.KeptIn.refl _).bind fun c desk => ?_
      split
      · exact (hask .group desk).bind fun right desk => .refl _
      · exact (hask .operand desk).orGoBack start
  | operand =>
    refine (Course.KeptIn.refl _).bind fun c desk => ?_
    rcases c with _ | c
    · exact .refl _
    · dsimp only
      split
      · exact hask .group desk
      · exact .refl _
  | group =>
    refine (Course.KeptIn.refl _).bind fun opening desk => ?_
    refine (Course.KeptIn.refl _).bind fun depth desk => ?_
    split
    · exact .refl _
    · refine (Course.KeptIn.refl _).bind fun _ desk => ?_
      refine (Course.KeptIn.refl _).bind fun _ desk => ?_
      refine (Course.KeptIn.refl _).bind fun _ desk => ?_
      exact (hask .disjunction desk).bind fun inner desk => .refl _

/-- The readers do the same under a bound that is higher by one, by induction on the bound. -/
theorem perform_kept_succ (settings : Settings) (bound : Nat) (reader : Reader) (entry : Desk) :
    (perform settings bound reader entry).KeptIn (perform settings (bound + 1) reader entry) := by
  induction bound generalizing reader entry with
  | zero => exact .inl rfl
  | succ bound ih => exact (body_kept ih reader entry).asCall

theorem perform_kept (settings : Settings) {bound bound' : Nat} (h : bound ≤ bound')
    (reader : Reader) (entry : Desk) :
    (perform settings bound reader entry).KeptIn (perform settings bound' reader entry) := by
  induction h with
  | refl => exact .refl _
  | step _ ih => exact ih.trans (perform_kept_succ settings _ reader entry)

theorem readText_kept (settings : Settings) {bound bound' : Nat} (h : bound ≤ bound')
    (entry : Desk) :
    (readText settings bound entry).KeptIn (readText settings bound' entry) :=
  (Course.KeptIn.refl _).bind fun _ desk =>
    (perform_kept settings h .disjunction desk).bind fun _ _ => .refl _

theorem Reply.Tells.ne_unfinished {α : Type} {reply : Reply α} {text : List Char}
    {entry exit : Desk} {outcome : Except Stop α} (h : reply.Tells text entry outcome exit) :
    outcome ≠ .error .unfinished := by
  cases h with
  | done => simp
  | failed => simp

section Texts

variable {settings : Settings} (hdepth : settings.maxDepth < UInt64.size)

include hdepth

/-- Where the bound suffices, readers under one and the same bound ask each other. -/
theorem perform_eq_body {bound : Nat} {text : List Char} {reader : Reader} {state : State}
    {entry : Desk} (hsize : Visit.size ⟨reader, state⟩ < bound)
    (hne : reader = .group → state.unread ≠ []) (h : entry.At text state) :
    perform settings bound reader entry =
      asCall reader (reader.body settings (perform settings bound)) entry := by
  have htells := (perform_answers hdepth bound reader state entry hsize hne h).tells
  rcases perform_kept_succ settings bound reader entry with hstop | hsame
  · exact absurd hstop htells.ne_unfinished
  · exact hsame.symm

/-- A higher bound than that of a course changes nothing. -/
theorem readText_eq_course (input : String) {bound : Nat}
    (h : 4 * input.toList.length + 4 ≤ bound) :
    readText settings bound (.start input) = settings.course input := by
  have htells := (course_follows hdepth input).tells
  rcases readText_kept settings h (.start input) with hstop | hsame
  · exact absurd hstop htells.ne_unfinished
  · exact hsame

end Texts

end FilterQuery
