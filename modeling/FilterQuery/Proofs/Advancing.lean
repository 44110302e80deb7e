import FilterQuery.Proofs.Deciding
import FilterQuery.Proofs.Following
import FilterQuery.Proofs.Onward
import FilterQuery.Proofs.Unfinished

/-!
# Reading comes to an end

Whoever finds a filter has gone on in the text, and stands right behind the last thing that belongs
to it. So there is always less text left when a chain goes on or a group is entered, and the readers
cannot ask each other for ever.

* `EndsOperand`: what was read ends with a leaf or with a closing parenthesis.
  `Derives.endsOperand`, `Reader.reply_endsOperand`: so it is with all parts, and with what the
  readers find.
* `Reader.Recurs`: the readers that come back, to go on in a chain or inside of a group.
* `Course.Advances`: what this comes to in a course. `Settings.Suffices`: a bound on how deep the
  readers may ask each other that might as well not be there.
* `course_advances`: so it is in the course of reading any text, under any bound from four times its
  length and four more on.
-/

namespace FilterQuery

open Text Act

/-! ## Ends of operands -/

/-- What was read ends with a leaf, which is complete in front of the rest, or with a closing
parenthesis. A leaf is an operand without groups. -/
inductive EndsOperand : List Char → List Char → Prop
  | leaf (earlier : List Char) {filter : Filter} {text rest : List Char} :
    Derives .operand 0 filter (text ++ rest) rest → EndsOperand (earlier ++ text) rest
  | closing (earlier : List Char) {rest : List Char} : EndsOperand (earlier ++ [')']) rest

section EndsOperand

variable {taken rest : List Char}

theorem EndsOperand.prepend (h : EndsOperand taken rest) (earlier : List Char) :
    EndsOperand (earlier ++ taken) rest := by
  cases h with
  | leaf earlier' derivation =>
    rw [← List.append_assoc]
    exact .leaf _ derivation
  | closing earlier' =>
    rw [← List.append_assoc]
    exact .closing _

/-- Neither leaves nor groups end in a blank. -/
theorem EndsOperand.exists_last (h : EndsOperand taken rest) :
    ∃ init c, taken = init ++ [c] ∧ isBlank c = false := by
  cases h with
  | @leaf earlier filter text _ derivation =>
    obtain ⟨init, c, htext, hc⟩ := derivation.exists_last
    rw [List.append_cons, List.append_cancel_right_eq] at htext
    exact ⟨earlier ++ init, c, by rw [htext, List.append_assoc], hc⟩
  | closing earlier => exact ⟨earlier, ')', rfl, isBlank_parenthesis.2⟩

/-- A leaf is all that it takes up. -/
theorem Derives.endsOperand_leaf {filter : Filter} {text : List Char}
    (h : Derives .operand 0 filter text rest) :
    ∃ taken, text = taken ++ rest ∧ EndsOperand taken rest := by
  obtain ⟨taken, rfl, -, -⟩ := h.followed
  exact ⟨taken, rfl, .leaf [] h⟩

/-- All parts end with their last operand. -/
theorem Derives.endsOperand {part : Part} {n : Nat} {filter : Filter} {text : List Char}
    (h : Derives part n filter text rest) :
    ∃ taken, text = taken ++ rest ∧ EndsOperand taken rest := by
  induction h with
  | pair hname hvalue => exact (Derives.pair hname hvalue).endsOperand_leaf
  | tag hname hstops => exact (Derives.tag hname hstops).endsOperand_leaf
  | @group n filter before text behind rest _ derivation _ _ =>
    obtain ⟨inside, rfl, -, -⟩ := derivation.followed
    exact ⟨'(' :: (before ++ (inside ++ behind)) ++ [')'], by simp, .closing _⟩
  | single _ ih => exact ih
  | joined left joint _ _ ihRight =>
    obtain ⟨members, rfl, -, -⟩ := left.followed
    obtain ⟨between, rfl, -, -⟩ := joint.followed
    obtain ⟨taken, rfl, htaken⟩ := ihRight
    exact ⟨members ++ (between ++ taken), by simp, (htaken.prepend between).prepend members⟩

theorem group_endsOperand {settings : Settings} {state next : State} {filter : Filter} {log : Log}
    (h : group settings state = .done filter next log) :
    ∃ taken, state.unread = taken ++ next.unread ∧ EndsOperand taken next.unread := by
  rw [group_eq] at h
  rcases hunread : state.unread with _ | ⟨c, inside⟩
  · rw [hunread] at h
    cases h
  · rw [hunread] at h
    dsimp only at h
    split at h
    · cases h
    · obtain ⟨inner, middle, earlier, own, hinner, hclose, -⟩ := Reply.andThen_eq_done_iff.mp h
      obtain ⟨-, n, -, derivation⟩ := read_sound.1 (.chain .or) _ hinner
      obtain ⟨before, hinside, -⟩ := exists_blanks inside
      obtain ⟨-, -, behind, -, hbehind⟩ := closeGroup_eq_done hclose
      obtain ⟨text, htext, -, -⟩ := derivation.followed
      dsimp only at htext
      refine ⟨c :: (before ++ (text ++ behind)) ++ [')'], ?_, .closing _⟩
      rw [hinside, htext, hbehind]
      simp

/-- What a reader finds takes up text, up to the end of an operand. -/
theorem Reader.reply_endsOperand {settings : Settings} {reader : Reader} {state next : State}
    {value : reader.Value} {log : Log} (h : reader.reply settings state = .done value next log)
    (htakes : reader.TakesUp value) :
    ∃ taken, state.unread = taken ++ next.unread ∧ EndsOperand taken next.unread := by
  cases reader with
  | disjunction =>
    obtain ⟨-, n, -, derivation⟩ := read_sound.1 (.chain .or) state h
    exact derivation.endsOperand
  | conjunction =>
    obtain ⟨-, n, -, derivation⟩ := read_sound.1 (.chain .and) state h
    exact derivation.endsOperand
  | operand =>
    obtain ⟨-, n, -, derivation⟩ := read_sound.1 .operand state h
    exact derivation.endsOperand
  | group => exact group_endsOperand h
  | joinedOperand =>
    obtain ⟨right, rfl⟩ := Option.isSome_iff_exists.mp htakes
    have hjoins : ¬JoinsNothing state.unread := fun hnothing => by
      cases (joinedOperand_of_joinsNothing hnothing).symm.trans h
    have hreply : FilterQuery.joinedOperand settings state = _ := joinedOperand_of_joins hjoins
    obtain ⟨right', middle, earlier, own, hread, hdone, -⟩ :=
      Reply.andThen_eq_done_iff.mp (hreply.symm.trans h)
    cases hdone
    obtain ⟨-, n, -, derivation⟩ := read_sound.1 .operand _ hread
    obtain ⟨taken, htaken, hends⟩ := derivation.endsOperand
    obtain ⟨blanks, hunread, -⟩ := exists_blanks state.unread
    refine ⟨blanks ++ taken, ?_, hends.prepend blanks⟩
    rw [List.append_assoc, ← htaken, ← hunread]
  | moreDisjuncts left => exact htakes.elim
  | moreConjuncts left => exact htakes.elim

end EndsOperand

/-! ## Text that is left -/

section Left

variable {text : List Char} {state state' : State} {desk desk' : Desk}

/-- All of the text is read or is left. -/
theorem Desk.At.byteLength_unread (h : desk.At text state) :
    desk.cursor.position + byteLength desk.cursor.unread = byteLength text := by
  obtain ⟨before, htext, hcursor⟩ := h.cursor
  rw [h.unread_eq, htext, byteLength_append, hcursor]
  rfl

/-- What was read on the way from one desk to another one. -/
theorem Desk.At.taken (h : desk.At text state) (h' : desk'.At text state') {taken : List Char}
    (htaken : state.unread = taken ++ state'.unread) :
    desk.cursor.unread = taken ++ desk'.cursor.unread ∧
      desk'.cursor.position = desk.cursor.position + byteLength taken := by
  have hunread : desk.cursor.unread = taken ++ desk'.cursor.unread := by
    rw [h.unread_eq, h'.unread_eq, htaken]
  refine ⟨hunread, ?_⟩
  have hlength := h.byteLength_unread
  have hlength' := h'.byteLength_unread
  rw [hunread, byteLength_append] at hlength
  omega

/-- The readers that come back: those that go on in a chain, for its next member, and all of them
inside of a group. -/
inductive Reader.Recurs : Reader → Reader → Prop
  | disjuncts (left left' : Filter) : Recurs (.moreDisjuncts left) (.moreDisjuncts left')
  | conjuncts (left left' : Filter) : Recurs (.moreConjuncts left) (.moreConjuncts left')
  | inside (reader : Reader) : Recurs .group reader

theorem Reader.Recurs.rank_le {outer inner : Reader} (h : outer.Recurs inner) :
    outer.rank ≤ inner.rank := by
  cases h with
  | disjuncts left left' | conjuncts left left' => exact Nat.le_refl _
  | inside => exact Nat.zero_le _

/-- A request that is made below another one has less before it. Where a reader comes back, this is
less text. -/
theorem Request.Above.unread_lt {outer inner : Request} (h : outer.Above inner)
    (houter : outer.entry.At text state) (hinner : inner.entry.At text state') :
    4 * byteLength inner.entry.cursor.unread + inner.reader.rank <
        4 * byteLength outer.entry.cursor.unread + outer.reader.rank ∧
      (outer.reader.Recurs inner.reader →
        byteLength inner.entry.cursor.unread < byteLength outer.entry.cursor.unread) := by
  have hlength := houter.byteLength_unread
  have hlength' := hinner.byteLength_unread
  have hrank := inner.reader.rank_le
  unfold Above at h
  refine ⟨by omega, fun hrecurs => ?_⟩
  have hle := hrecurs.rank_le
  omega

end Left

/-! ## Whole texts -/

/-- What is known of the text that is read, and of what is left of it, in a course. -/
structure Course.Advances {α : Type} (course : Course α) : Prop where
  /-- A reader that has found what takes up text leaves the cursor further on, right behind a leaf
  or a closing parenthesis, and not behind a blank. -/
  takesUp : ∀ reader entry value exit, .replied reader entry (.ok value) exit ∈ course.events →
    reader.TakesUp value →
    entry.cursor.position < exit.cursor.position ∧
      ∃ taken, entry.cursor.unread = taken ++ exit.cursor.unread ∧
        exit.cursor.position = entry.cursor.position + byteLength taken ∧
        EndsOperand taken exit.cursor.unread ∧
        ∃ init last, taken = init ++ [last] ∧ isBlank last = false
  /-- No reader leaves the cursor further back than it has found it, whatever comes of it. -/
  forward : ∀ reader entry outcome exit, .replied reader entry outcome exit ∈ course.events →
    entry.cursor.position ≤ exit.cursor.position
  /-- Neither does trying a connective, and one that is taken takes up text. -/
  connective : ∀ connective entry taken exit,
    .tried connective entry taken exit ∈ course.events →
    entry.cursor.position ≤ exit.cursor.position ∧
      (taken = true → entry.cursor.position < exit.cursor.position)
  /-- The requests that wait for a reply are replied to in turn, the last one first. -/
  replies : ∀ before reader entry outcome exit after,
    course.events = before ++ .replied reader entry outcome exit :: after →
    (pendingAfter [] before).head? = some ⟨reader, entry⟩
  /-- In the end none of them waits. -/
  replied : pendingAfter [] course.events = []
  /-- A reader that is asked has less before it than all readers that wait for it, in bytes that are
  left and, where these are the same, in its rank. -/
  below : ∀ before reader entry after, course.events = before ++ .asked reader entry :: after →
    ∀ request ∈ pendingAfter [] before,
      4 * byteLength entry.cursor.unread + reader.rank <
        4 * byteLength request.entry.cursor.unread + request.reader.rank
  /-- Fewer bytes are left whenever a chain goes on, and inside of a group. -/
  recurs : ∀ before reader entry after, course.events = before ++ .asked reader entry :: after →
    ∀ request ∈ pendingAfter [] before, request.reader.Recurs reader →
      byteLength entry.cursor.unread < byteLength request.entry.cursor.unread

/-- The bound on how deep the readers may ask each other suffices for a text. Its course is the one
under that bound, and where a reader is asked it asks readers under the same bound, as if there were
none. -/
structure Settings.Suffices (settings : Settings) (bound : Nat) (input : String) : Prop where
  course : readText settings bound (.start input) = settings.course input
  recursive : ∀ reader entry, .asked reader entry ∈ (settings.course input).events →
    perform settings bound reader entry =
      asCall reader (reader.body settings (perform settings bound)) entry

/-- The readers of leaves and of what leaves consist of go on as well, wherever they start. -/
structure Settings.LeavesAdvance (settings : Settings) : Prop where
  key : (runIn isKeyChar .noKey).TakesUp
  value : valueIn.Forward
  pair : (pairIn settings).TakesUp
  tag : ∀ polarity, (tagIn polarity).TakesUp

section Texts

variable (settings : Settings) (input : String) (hdepth : settings.maxDepth < UInt64.size)

/-- What happens fits to the requests that wait for a reply. -/
theorem course_fits {before after : List Event} {event : Event}
    (h : (settings.course input).events = before ++ event :: after) :
    event.Fits (pendingAfter [] before) := by
  have hnests := (course_onward settings input).nests
  rw [h] at hnests
  exact hnests.fits

theorem course_fits_of_mem {event : Event} (h : event ∈ (settings.course input).events) :
    ∃ pending, event.Fits pending := by
  obtain ⟨before, after, heq⟩ := List.append_of_mem h
  exact ⟨_, course_fits settings input heq⟩

include hdepth

theorem course_asked {reader : Reader} {entry : Desk}
    (h : .asked reader entry ∈ (settings.course input).events) :
    ∃ state, entry.At input.toList state := by
  obtain ⟨state, -, hat⟩ := (course_follows hdepth input).faithful _ h
  exact ⟨state, hat⟩

/-- What a reader finds takes up text, wherever it is asked. -/
theorem course_takesUp {reader : Reader} {entry exit : Desk} {value : reader.Value}
    (h : .replied reader entry (.ok value) exit ∈ (settings.course input).events)
    (htakes : reader.TakesUp value) :
    ∃ taken, entry.cursor.unread = taken ++ exit.cursor.unread ∧
      exit.cursor.position = entry.cursor.position + byteLength taken ∧
      EndsOperand taken exit.cursor.unread := by
  obtain ⟨state, -, hat, htells⟩ := (course_follows hdepth input).faithful _ h
  generalize hreply : reader.reply settings state = reply at htells
  cases htells with
  | done hexit _ =>
    obtain ⟨taken, htaken, hends⟩ := Reader.reply_endsOperand hreply htakes
    obtain ⟨hunread, hposition⟩ := hat.taken hexit htaken
    rw [← hexit.unread_eq] at hends
    exact ⟨taken, hunread, hposition, hends⟩

/-- Requests that are made are below those that wait for them, and have less before them. -/
theorem course_below {before after : List Event} {reader : Reader} {entry : Desk}
    (h : (settings.course input).events = before ++ .asked reader entry :: after)
    {request : Request} (hwaits : request ∈ pendingAfter [] before) :
    4 * byteLength entry.cursor.unread + reader.rank <
        4 * byteLength request.entry.cursor.unread + request.reader.rank ∧
      (request.reader.Recurs reader →
        byteLength entry.cursor.unread < byteLength request.entry.cursor.unread) := by
  have habove : request.Above ⟨reader, entry⟩ := (course_fits settings input h).1 request hwaits
  have hasked : .asked request.reader request.entry ∈ (settings.course input).events := by
    rw [h]
    exact List.mem_append_left _ ((mem_pendingAfter hwaits).resolve_left (by simp))
  obtain ⟨state, hat⟩ := course_asked settings input hdepth hasked
  obtain ⟨state', hat'⟩ := course_asked settings input hdepth
    (h ▸ List.mem_append_right before List.mem_cons_self)
  exact habove.unread_lt hat hat'

/-- Where a reader is asked, it does the same under any bound that suffices for the text, with
readers under the same bound. -/
theorem course_recursive {bound : Nat} (hbound : 4 * input.toList.length + 4 ≤ bound)
    {reader : Reader} {entry : Desk}
    (h : .asked reader entry ∈ (settings.course input).events) :
    perform settings bound reader entry =
      asCall reader (reader.body settings (perform settings bound)) entry := by
  obtain ⟨state, hat⟩ := course_asked settings input hdepth h
  obtain ⟨pending, -, hgroup⟩ := course_fits_of_mem settings input h
  refine perform_eq_body hdepth ?_ (fun hreader => ?_) hat
  · obtain ⟨before, htext, -⟩ := hat.cursor
    have hlength := congrArg List.length htext
    have hrank := reader.rank_le
    rw [List.length_append] at hlength
    simp only [Visit.size]
    omega
  · have hpeek := hgroup hreader
    rw [hat.peek_eq] at hpeek
    rintro hnil
    rw [hnil] at hpeek
    cases hpeek

/-- In the course of reading a text, whoever finds something has gone on, and nobody goes back to
before where he has started. So there is less and less left for the readers that ask each other, and
a bound that grows with the length of the text is never met: the readers do what they do as if there
were none. -/
theorem course_advances :
    settings.parseInPlace input = some (settings.parse input) ∧
      (settings.course input).Advances ∧
      (∀ bound, 4 * input.toList.length + 4 ≤ bound → settings.Suffices bound input) ∧
      settings.LeavesAdvance := by
  refine ⟨parseInPlace_eq hdepth input, ?_, fun bound hbound => ?_, ?_⟩
  · exact {
      takesUp := fun reader entry value exit hevent htakes => by
        obtain ⟨pending, -, -, hfurther⟩ := course_fits_of_mem settings input hevent
        obtain ⟨taken, hunread, hposition, hends⟩ :=
          course_takesUp settings input hdepth hevent htakes
        exact ⟨hfurther value rfl htakes, taken, hunread, hposition, hends, hends.exists_last⟩
      forward := fun reader entry outcome exit hevent => by
        obtain ⟨pending, -, hforward, -⟩ := course_fits_of_mem settings input hevent
        exact hforward
      connective := fun connective entry taken exit hevent => by
        obtain ⟨pending, htried⟩ := course_fits_of_mem settings input hevent
        exact htried
      replies := fun before reader entry outcome exit after heq =>
        (course_fits settings input heq).1
      replied := (course_onward settings input).replied
      below := fun before reader entry after heq request hwaits =>
        (course_below settings input hdepth heq hwaits).1
      recurs := fun before reader entry after heq request hwaits =>
        (course_below settings input hdepth heq hwaits).2 }
  · exact ⟨readText_eq_course hdepth input hbound, fun reader entry hasked =>
      course_recursive settings input hdepth hbound hasked⟩
  · exact ⟨runIn_takesUp _ _, valueIn_forward, pairIn_takesUp settings, tagIn_takesUp⟩

end Texts

/-- A value that ends in a blank, blanks in front of a closing parenthesis, a word that is given up
behind it, and letters of several bytes. -/
theorem course_advances_blanksInside :
    (⟨1, none, true⟩ : Settings).maxDepth < UInt64.size ∧
      Settings.parseInPlace ⟨1, none, true⟩ "a:'x ' (+b or é:2 ) d" =
        some (Settings.parse ⟨1, none, true⟩ "a:'x ' (+b or é:2 ) d") ∧
      (Settings.course ⟨1, none, true⟩ "a:'x ' (+b or é:2 ) d").Advances ∧
      (∀ bound, 4 * "a:'x ' (+b or é:2 ) d".toList.length + 4 ≤ bound →
        Settings.Suffices ⟨1, none, true⟩ bound "a:'x ' (+b or é:2 ) d") ∧
      Settings.LeavesAdvance ⟨1, none, true⟩ := by
  have hdepth : (⟨1, none, true⟩ : Settings).maxDepth < UInt64.size := by decide
  exact ⟨hdepth, course_advances ⟨1, none, true⟩ "a:'x ' (+b or é:2 ) d" hdepth⟩

end FilterQuery
