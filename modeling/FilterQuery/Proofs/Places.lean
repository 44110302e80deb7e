import FilterQuery.Cursor.Trip
import FilterQuery.Proofs.Operand

/-!
# Cursors as places between characters

A cursor counts bytes. A place keeps the characters in front of it and those behind it, and moves by
handing characters over from one list to the other. Nothing can go wrong with a place, and a cursor
does what a place does.

* `Place.Step`: where a move leads from a place, and with which answer. The rules say which
  characters are taken: the longest run of a class, a word that does not go on, a value up to the
  next quote.
* `Tour.Step`, `Tour.Runs`: the same with places that are remembered, for one move and for several.
* `Place.cursor`: the cursor at a place. `Place.Step.step_eq` and `Tour.Step.trip_eq`: a move of
  the cursor follows the rules. `Tour.exists_step`: there is a rule for every move.
* `Trip.run_eq_iff`: the answers of a trip are those that the rules give.
-/

namespace FilterQuery

open Text

/-! ## Moves by rules -/

/-- A place in a text, between two characters or at an end. -/
@[ext]
structure Place where
  /-- The characters in front of the place. -/
  before : List Char
  /-- The characters behind the place. -/
  rest : List Char
  deriving DecidableEq, Repr

namespace Place

/-- The place at the start of a text. -/
def start (text : List Char) : Place :=
  ⟨[], text⟩

/-- The whole text. -/
def text (place : Place) : List Char :=
  place.before ++ place.rest

/-- The byte offset of the place. -/
def position (place : Place) : Nat :=
  byteLength place.before

/-- The place behind a run of characters, in front of the given rest. -/
def past (place : Place) (run rest : List Char) : Place :=
  ⟨place.before ++ run, rest⟩

/-- A text in which no word goes on that ends before it. -/
def EndsWord (rest : List Char) : Prop :=
  Stops (fun c => isAlphanumeric c || c == ':') rest

/-- Where a move leads from a place, and its answer. -/
inductive Step (place : Place) : Move → Answer → Place → Prop
  | rest : Step place .rest (.text place.rest) place
  | atEnd : Step place .atEnd (.flag place.rest.isEmpty) place
  | peek : Step place .peek (.char place.rest.head?) place
  | next {c : Char} {rest : List Char} : place.rest = c :: rest →
      Step place .next (.char (some c)) (place.past [c] rest)
  | nextNone : place.rest = [] → Step place .next (.char none) place
  | eat {c : Char} {rest : List Char} : place.rest = c :: rest →
      Step place (.eat c) (.flag true) (place.past [c] rest)
  | eatNone {c : Char} : place.rest.head? ≠ some c → Step place (.eat c) (.flag false) place
  | take {p : Char → Bool} {run rest : List Char} : place.rest = run ++ rest →
      (∀ c ∈ run, p c = true) → Stops p rest →
      Step place (.take p) (.text run) (place.past run rest)
  | skipBlanks {blanks rest : List Char} : place.rest = blanks ++ rest → Blanks blanks →
      Stops isBlank rest →
      Step place .skipBlanks (.count (byteLength blanks)) (place.past blanks rest)
  | atWord {word rest : List Char} : place.rest = word ++ rest → EndsWord rest →
      Step place (.atWord word) (.flag true) place
  | atWordNone {word : List Char} : (∀ rest, place.rest = word ++ rest → ¬EndsWord rest) →
      Step place (.atWord word) (.flag false) place
  | eatWord {word rest : List Char} : place.rest = word ++ rest → EndsWord rest →
      Step place (.eatWord word) (.flag true) (place.past word rest)
  | eatWordNone {word : List Char} : (∀ rest, place.rest = word ++ rest → ¬EndsWord rest) →
      Step place (.eatWord word) (.flag false) place
  | quoted {body rest : List Char} : place.rest = quoteMark :: (body ++ quoteMark :: rest) →
      quoteMark ∉ body →
      Step place .quoted (.text body) (place.past (quoteMark :: (body ++ [quoteMark])) rest)
  | quotedNone : place.rest.head? ≠ some quoteMark →
      Step place .quoted (.error (Cause.noQuote.errorAt place.position)) place
  | quotedOpen {body : List Char} : place.rest = quoteMark :: body → quoteMark ∉ body →
      Step place .quoted (.error (Cause.openQuote.errorAt place.position))
        (place.past place.rest [])

end Place

/-- A place on its way, with the places that were remembered, the first one first. -/
structure Tour where
  /-- The place. -/
  place : Place
  /-- The places that were remembered. -/
  saved : List Place
  deriving DecidableEq, Repr

namespace Tour

/-- The tour that starts at the start of a text. -/
def start (text : List Char) : Tour :=
  ⟨.start text, []⟩

/-- One move of a tour, with its answer. -/
inductive Step (tour : Tour) : Move → Answer → Tour → Prop
  | move {move : Move} {answer : Answer} {place : Place} : tour.place.Step move answer place →
      Step tour move answer ⟨place, tour.saved⟩
  | save : Step tour .save (.count tour.saved.length) ⟨tour.place, tour.saved ++ [tour.place]⟩
  | restore {number : Nat} {place : Place} : tour.saved[number]? = some place →
      Step tour (.restore number) .nothing ⟨place, tour.saved⟩
  | restoreNone {number : Nat} : tour.saved[number]? = none →
      Step tour (.restore number) .nothing tour

/-- Several moves of a tour, each with its answer and the byte offset of the place after it. -/
inductive Runs : Tour → List Move → List (Answer × Nat) → Tour → Prop
  | nil {tour : Tour} : Runs tour [] [] tour
  | cons {tour next last : Tour} {move : Move} {moves : List Move} {answer : Answer}
      {answers : List (Answer × Nat)} : Step tour move answer next → Runs next moves answers last →
      Runs tour (move :: moves) ((answer, next.place.position) :: answers) last

end Tour

/-- The trip after several moves. -/
def Trip.after (trip : Trip) (moves : List Move) : Trip :=
  moves.foldl (fun trip move => (trip.step move).2) trip

/-! ## The cursor at a place -/

namespace Place

variable {place : Place} {run rest : List Char}

/-- The cursor at a place. -/
def cursor (place : Place) : Cursor :=
  ⟨place.text, place.position⟩

@[simp]
theorem unread_cursor (place : Place) : place.cursor.unread = place.rest :=
  Cursor.unread_mk place.before place.rest

@[simp]
theorem peek_cursor (place : Place) : place.cursor.peek = place.rest.head? := by
  rw [Cursor.peek, unread_cursor]

theorem atEnd_cursor (place : Place) : place.cursor.atEnd = place.rest.isEmpty := by
  have hlength : byteLength place.text = byteLength place.before + byteLength place.rest :=
    byteLength_append _ _
  rw [Cursor.atEnd, Bool.eq_iff_iff, decide_eq_true_iff, List.isEmpty_iff,
    ← byteLength_eq_zero_iff]
  simp only [cursor, position]
  omega

theorem text_past (h : place.rest = run ++ rest) : (place.past run rest).text = place.text := by
  rw [text, text, past, h, List.append_assoc]

theorem position_past (place : Place) (run rest : List Char) :
    (place.past run rest).position = place.position + byteLength run :=
  byteLength_append _ _

theorem advance_cursor (h : place.rest = run ++ rest) :
    place.cursor.advance (byteLength run) = (place.past run rest).cursor := by
  rw [Cursor.advance, cursor, cursor, text_past h, position_past]

/-- One character, as a run. -/
theorem advance_cursor_cons {c : Char} (h : place.rest = c :: rest) :
    place.cursor.advance c.utf8Size = (place.past [c] rest).cursor := by
  have hadvance : place.cursor.advance (byteLength [c]) = (place.past [c] rest).cursor :=
    advance_cursor h
  rwa [byteLength_cons, byteLength_nil, Nat.add_zero] at hadvance

theorem next_cursor {c : Char} (h : place.rest = c :: rest) :
    place.cursor.next = (some c, (place.past [c] rest).cursor) := by
  rw [Cursor.next, peek_cursor, h, List.head?_cons, ← advance_cursor_cons h]

theorem eat_cursor {c : Char} (h : place.rest = c :: rest) :
    place.cursor.eat c = (true, (place.past [c] rest).cursor) := by
  rw [Cursor.eat, peek_cursor, h, List.head?_cons, if_pos rfl, ← advance_cursor_cons h]

theorem eat_cursor_of_ne {c : Char} (h : place.rest.head? ≠ some c) :
    place.cursor.eat c = (false, place.cursor) := by
  rw [Cursor.eat, peek_cursor, if_neg h]

theorem takeWhile_cursor {p : Char → Bool} (h : place.rest = run ++ rest)
    (hrun : ∀ c ∈ run, p c = true) (hrest : Stops p rest) :
    place.cursor.takeWhile p = (run, (place.past run rest).cursor) := by
  rw [Cursor.takeWhile, unread_cursor, h, takeWhile_run hrun hrest, ← advance_cursor h]

theorem skipBlanks_cursor (h : place.rest = run ++ rest) (hrun : Blanks run)
    (hrest : Stops isBlank rest) :
    place.cursor.skipBlanks = (byteLength run, (place.past run rest).cursor) := by
  rw [Cursor.skipBlanks, takeWhile_cursor h hrun hrest]

theorem endsWord_iff : EndsWord rest ↔ continuesWord rest = false :=
  continuesWord_eq_false_iff.symm

theorem atWord_cursor {word : List Char} (h : place.rest = word ++ rest) (hrest : EndsWord rest) :
    place.cursor.atWord word = true := by
  rw [Cursor.atWord, unread_cursor, afterWord?_eq_some_iff.mpr ⟨h, endsWord_iff.mp hrest⟩]
  rfl

theorem atWord_cursor_of_not {word : List Char}
    (h : ∀ rest, place.rest = word ++ rest → ¬EndsWord rest) :
    place.cursor.atWord word = false := by
  rw [Cursor.atWord, unread_cursor]
  rcases hword : afterWord? word place.rest with _ | rest
  · rfl
  · obtain ⟨hrest, hends⟩ := afterWord?_eq_some_iff.mp hword
    exact absurd (endsWord_iff.mpr hends) (h rest hrest)

theorem quoted_cursor {body : List Char} (h : place.rest = quoteMark :: (body ++ quoteMark :: rest))
    (hbody : quoteMark ∉ body) :
    place.cursor.quoted =
      (.ok body, (place.past (quoteMark :: (body ++ [quoteMark])) rest).cursor) := by
  have hall : ∀ c ∈ body, (c != quoteMark) = true := fun c hc =>
    bne_iff_ne.mpr fun heq => hbody (heq ▸ hc)
  let inside := place.past [quoteMark] (body ++ quoteMark :: rest)
  let behind := inside.past body (quoteMark :: rest)
  have htake : inside.cursor.takeWhile (· != quoteMark) = (body, behind.cursor) :=
    takeWhile_cursor rfl hall (stops_cons.mpr (by simp))
  have hclose : behind.cursor.eat quoteMark = (true, (behind.past [quoteMark] rest).cursor) :=
    eat_cursor rfl
  have hplace : behind.past [quoteMark] rest =
      place.past (quoteMark :: (body ++ [quoteMark])) rest := by
    simp [behind, inside, past]
  rw [← hplace]
  simp only [Cursor.quoted, eat_cursor h, inside, htake, hclose]

theorem quoted_cursor_of_ne (h : place.rest.head? ≠ some quoteMark) :
    place.cursor.quoted = (.error (Cause.noQuote.errorAt place.position), place.cursor) := by
  simp only [Cursor.quoted, eat_cursor_of_ne h]
  rfl

theorem quoted_cursor_open {body : List Char} (h : place.rest = quoteMark :: body)
    (hbody : quoteMark ∉ body) :
    place.cursor.quoted =
      (.error (Cause.openQuote.errorAt place.position), (place.past place.rest []).cursor) := by
  have hall : ∀ c ∈ body, (c != quoteMark) = true := fun c hc =>
    bne_iff_ne.mpr fun heq => hbody (heq ▸ hc)
  let inside := place.past [quoteMark] body
  have htake : inside.cursor.takeWhile (· != quoteMark) = (body, (inside.past body []).cursor) :=
    takeWhile_cursor (List.append_nil body).symm hall (stops_nil _)
  have hclose : (inside.past body []).cursor.eat quoteMark =
      (false, (inside.past body []).cursor) :=
    eat_cursor_of_ne (by simp [past])
  have hplace : inside.past body [] = place.past place.rest [] := by
    simp [inside, past, h]
  rw [← hplace]
  simp only [Cursor.quoted, eat_cursor h, inside, htake, hclose]
  rfl

/-! ## Every move follows the rules -/

/-- What a move does with a cursor, in terms of the trip that it belongs to. -/
theorem Step.step_eq {move : Move} {answer : Answer} {next : Place}
    (h : place.Step move answer next) (saved : List Nat) :
    Trip.step ⟨place.cursor, saved⟩ move = (answer, ⟨next.cursor, saved⟩) := by
  cases h with
  | rest => rw [Trip.step, unread_cursor]
  | atEnd => rw [Trip.step, atEnd_cursor]
  | peek => rw [Trip.step, peek_cursor]
  | next hrest => simp only [Trip.step, next_cursor hrest, Trip.moveTo]
  | nextNone hrest =>
    simp only [Trip.step, Cursor.next, peek_cursor, hrest, List.head?_nil, Trip.moveTo]
  | eat hrest => simp only [Trip.step, eat_cursor hrest, Trip.moveTo]
  | eatNone hhead => simp only [Trip.step, eat_cursor_of_ne hhead, Trip.moveTo]
  | take hrest hrun hstops => simp only [Trip.step, takeWhile_cursor hrest hrun hstops, Trip.moveTo]
  | skipBlanks hrest hrun hstops =>
    simp only [Trip.step, skipBlanks_cursor hrest hrun hstops, Trip.moveTo]
  | atWord hrest hends => rw [Trip.step, atWord_cursor hrest hends]
  | atWordNone hnot => rw [Trip.step, atWord_cursor_of_not hnot]
  | eatWord hrest hends =>
    simp only [Trip.step, Cursor.eatWord, if_pos (atWord_cursor hrest hends), advance_cursor hrest,
      Trip.moveTo]
  | eatWordNone hnot =>
    simp only [Trip.step, Cursor.eatWord, atWord_cursor_of_not hnot, Bool.false_eq_true, if_false,
      Trip.moveTo]
  | quoted hrest hbody => simp only [Trip.step, quoted_cursor hrest hbody, Trip.moveTo]
  | quotedNone hhead => simp only [Trip.step, quoted_cursor_of_ne hhead, Trip.moveTo]
  | quotedOpen hrest hbody => simp only [Trip.step, quoted_cursor_open hrest hbody, Trip.moveTo]

/-- No move takes a place to another text. -/
theorem Step.text_eq {move : Move} {answer : Answer} {next : Place}
    (h : place.Step move answer next) : next.text = place.text := by
  cases h with
  | next hrest | eat hrest | take hrest | skipBlanks hrest | eatWord hrest => exact text_past hrest
  | quoted hrest => exact text_past (by simp [hrest])
  | quotedOpen => exact text_past (List.append_nil _).symm
  | _ => rfl

theorem endsWord_or (place : Place) (word : List Char) :
    (∃ rest, place.rest = word ++ rest ∧ EndsWord rest) ∨
      ∀ rest, place.rest = word ++ rest → ¬EndsWord rest := by
  by_cases h : ∃ rest, place.rest = word ++ rest ∧ EndsWord rest
  · exact .inl h
  · exact .inr fun rest hrest hends => h ⟨rest, hrest, hends⟩

end Place

namespace Tour

/-- The trip that a tour is, in byte offsets. -/
def trip (tour : Tour) : Trip :=
  ⟨tour.place.cursor, tour.saved.map Place.position⟩

/-- All places that were remembered are places of the same text. -/
def OneText (tour : Tour) : Prop :=
  ∀ place ∈ tour.saved, place.text = tour.place.text

variable {tour next last : Tour} {move : Move} {moves : List Move} {answer : Answer}
  {answers : List (Answer × Nat)}

theorem Step.trip_eq (h : tour.Step move answer next) (hone : tour.OneText) :
    tour.trip.step move = (answer, next.trip) := by
  cases h with
  | move h => exact h.step_eq _
  | save => simp [trip, Trip.step, Place.cursor]
  | @restore number place hsaved =>
    have htext := hone place (List.mem_of_getElem? hsaved)
    simp [trip, Trip.step, hsaved, Trip.moveTo, Place.cursor, htext]
  | restoreNone hsaved => simp [trip, Trip.step, hsaved]

/-- A move leads to the same text, as do the places that are remembered. -/
theorem Step.oneText (h : tour.Step move answer next) (hone : tour.OneText) :
    next.OneText ∧ next.place.text = tour.place.text := by
  cases h with
  | move h => exact ⟨fun place hplace => (hone place hplace).trans h.text_eq.symm, h.text_eq⟩
  | save =>
    refine ⟨fun place hplace => ?_, rfl⟩
    rcases List.mem_append.mp hplace with hplace | hplace
    · exact hone place hplace
    · rw [List.mem_singleton.mp hplace]
  | @restore number place hsaved =>
    have htext := hone place (List.mem_of_getElem? hsaved)
    exact ⟨fun place' hplace' => (hone place' hplace').trans htext.symm, htext⟩
  | restoreNone hsaved => exact ⟨hone, rfl⟩

/-- There is a rule for every move. -/
theorem exists_step (tour : Tour) (move : Move) : ∃ answer next, tour.Step move answer next := by
  have lift : (∃ answer place, tour.place.Step move answer place) →
      ∃ answer next, tour.Step move answer next :=
    fun ⟨answer, place, h⟩ => ⟨answer, ⟨place, tour.saved⟩, .move h⟩
  cases move with
  | rest => exact lift ⟨_, _, .rest⟩
  | atEnd => exact lift ⟨_, _, .atEnd⟩
  | peek => exact lift ⟨_, _, .peek⟩
  | next =>
    rcases hrest : tour.place.rest with _ | ⟨c, rest⟩
    · exact lift ⟨_, _, .nextNone hrest⟩
    · exact lift ⟨_, _, .next hrest⟩
  | eat c =>
    by_cases hhead : tour.place.rest.head? = some c
    · obtain ⟨rest, hrest⟩ := List.head?_eq_some_iff.mp hhead
      exact lift ⟨_, _, .eat hrest⟩
    · exact lift ⟨_, _, .eatNone hhead⟩
  | take p =>
    obtain ⟨run, hrest, hrun⟩ := exists_run p tour.place.rest
    exact lift ⟨_, _, .take hrest hrun (stops_dropWhile p _)⟩
  | skipBlanks =>
    obtain ⟨blanks, hrest, hblanks⟩ := exists_blanks tour.place.rest
    exact lift ⟨_, _, .skipBlanks hrest hblanks (stops_skipBlanks _)⟩
  | atWord word =>
    rcases tour.place.endsWord_or word with ⟨rest, hrest, hends⟩ | hnot
    · exact lift ⟨_, _, .atWord hrest hends⟩
    · exact lift ⟨_, _, .atWordNone hnot⟩
  | eatWord word =>
    rcases tour.place.endsWord_or word with ⟨rest, hrest, hends⟩ | hnot
    · exact lift ⟨_, _, .eatWord hrest hends⟩
    · exact lift ⟨_, _, .eatWordNone hnot⟩
  | quoted =>
    by_cases hhead : tour.place.rest.head? = some quoteMark
    · obtain ⟨tail, hrest⟩ := List.head?_eq_some_iff.mp hhead
      rcases hfound : afterQuote? tail with _ | ⟨body, rest⟩
      · exact lift ⟨_, _, .quotedOpen hrest (afterQuote?_eq_none_iff.mp hfound)⟩
      · obtain ⟨rfl, hbody⟩ := afterQuote?_eq_some_iff.mp hfound
        exact lift ⟨_, _, .quoted hrest hbody⟩
    · exact lift ⟨_, _, .quotedNone hhead⟩
  | save => exact ⟨_, _, .save⟩
  | restore number =>
    rcases hsaved : tour.saved[number]? with _ | place
    · exact ⟨_, _, .restoreNone hsaved⟩
    · exact ⟨_, _, .restore hsaved⟩

/-! ## Several moves -/

/-- The moves of a tour are those of its trip. -/
theorem Runs.trip_eq (h : Runs tour moves answers last) (hone : tour.OneText) :
    tour.trip.run moves = answers ∧ tour.trip.after moves = last.trip ∧
      last.place.text = tour.place.text := by
  induction h with
  | nil => exact ⟨rfl, rfl, rfl⟩
  | cons hstep _ ih =>
    obtain ⟨hone', htext⟩ := hstep.oneText hone
    obtain ⟨hrun, hafter, hlast⟩ := ih hone'
    refine ⟨?_, ?_, hlast.trans htext⟩
    · rw [Trip.run, hstep.trip_eq hone]
      exact congrArg (_ :: ·) hrun
    · rw [Trip.after, List.foldl_cons, hstep.trip_eq hone]
      exact hafter

theorem exists_runs (tour : Tour) (moves : List Move) :
    ∃ answers last, Runs tour moves answers last := by
  induction moves generalizing tour with
  | nil => exact ⟨_, _, .nil⟩
  | cons move moves ih =>
    obtain ⟨answer, next, hstep⟩ := tour.exists_step move
    obtain ⟨answers, last, hruns⟩ := ih next
    exact ⟨_, _, .cons hstep hruns⟩

end Tour

/-- The answers of a trip and the offsets of its cursor are those that the rules for places give,
and no others. After any number of moves the cursor is at the start of a character or at the end of
the text, so there is always a text from the cursor on. -/
theorem Trip.run_eq_iff (input : String) (moves : List Move) :
    (∀ answers, (Trip.start input).run moves = answers ↔
      ∃ last, Tour.Runs (.start input.toList) moves answers last) ∧
    ∃ last : Tour, ((Trip.start input).after moves).cursor = last.place.cursor ∧
      input.toList = last.place.before ++ last.place.rest ∧
      last.place.position ≤ input.utf8ByteSize ∧
      fromByte? input.toList last.place.position = some last.place.rest := by
  have hstart : (Tour.start input.toList).trip = Trip.start input := rfl
  have hone : (Tour.start input.toList).OneText := by
    simp [Tour.OneText, Tour.start]
  obtain ⟨answers, last, hruns⟩ := (Tour.start input.toList).exists_runs moves
  obtain ⟨hrun, hafter, htext⟩ := hruns.trip_eq hone
  rw [hstart] at hrun hafter
  refine ⟨fun answers' => ⟨?_, ?_⟩, last, ?_, htext.symm, ?_, ?_⟩
  · rintro rfl
    exact ⟨last, hrun ▸ hruns⟩
  · rintro ⟨last', hruns'⟩
    exact (hruns'.trip_eq hone).1
  · rw [hafter]
    rfl
  · rw [← byteLength_toList, show input.toList = last.place.text from htext.symm, Place.text,
      byteLength_append]
    exact Nat.le_add_right _ _
  · rw [show input.toList = last.place.text from htext.symm]
    exact fromByte?_append _ _

example :
    (Trip.start "é:' '").run [.take isKeyChar, .save, .eat ':', .quoted, .restore 0, .rest] =
      [(.text ['é'], 2), (.count 0, 2), (.flag true, 3), (.text [' '], 6), (.nothing, 2),
        (.text ":' '".toList, 2)] := by
  decide +kernel

end FilterQuery
