import FilterQuery.Cursor.Basic

/-!
# Trips through a text

A trip moves a cursor step by step and may come back to places that it remembered.

* `Trip.step`: one move, with its answer.
* `Trip.run`: the answers to several moves, each with the position after it.
-/

namespace FilterQuery

/-- What can be done with a cursor. -/
inductive Move where
  /-- Ask for the text from the cursor on. -/
  | rest
  /-- Ask whether the cursor is at the end. -/
  | atEnd
  /-- Ask for the character at the cursor. -/
  | peek
  /-- Take the character at the cursor. -/
  | next
  /-- Take the character at the cursor if it is the expected one. -/
  | eat (expected : Char)
  /-- Take the longest run of characters of a class. -/
  | take (p : Char → Bool)
  /-- Take the blanks at the cursor. -/
  | skipBlanks
  /-- Ask whether a word stands at the cursor. -/
  | atWord (word : List Char)
  /-- Take a word. -/
  | eatWord (word : List Char)
  /-- Take a quoted value. -/
  | quoted
  /-- Remember the place of the cursor. -/
  | save
  /-- Come back to the place that was remembered under a number. -/
  | restore (number : Nat)

/-- The answer to a move. -/
inductive Answer where
  /-- A piece of text. -/
  | text (text : List Char)
  /-- Yes or no. -/
  | flag (flag : Bool)
  /-- A character, or that there is none. -/
  | char (found : Option Char)
  /-- A number. -/
  | count (count : Nat)
  /-- That the text is malformed. -/
  | error (error : SyntaxError)
  /-- Nothing to tell. -/
  | nothing
  deriving DecidableEq, Repr, Inhabited

/-- A cursor on its way, with the places that were remembered, the first one first. -/
structure Trip where
  /-- The cursor. -/
  cursor : Cursor
  /-- The byte offsets that were remembered. -/
  saved : List Nat
  deriving DecidableEq, Repr, Inhabited

namespace Trip

/-- The trip that starts at the start of a text. -/
def start (input : String) : Trip :=
  ⟨.start input, []⟩

/-- The trip with the cursor elsewhere. -/
def moveTo (trip : Trip) (cursor : Cursor) : Trip :=
  { trip with cursor := cursor }

/-- One move, with its answer. A number under which nothing was remembered moves nothing. -/
def step (trip : Trip) : Move → Answer × Trip
  | .rest => (.text trip.cursor.unread, trip)
  | .atEnd => (.flag trip.cursor.atEnd, trip)
  | .peek => (.char trip.cursor.peek, trip)
  | .next =>
    let (found, cursor) := trip.cursor.next
    (.char found, trip.moveTo cursor)
  | .eat expected =>
    let (eaten, cursor) := trip.cursor.eat expected
    (.flag eaten, trip.moveTo cursor)
  | .take p =>
    let (run, cursor) := trip.cursor.takeWhile p
    (.text run, trip.moveTo cursor)
  | .skipBlanks =>
    let (skipped, cursor) := trip.cursor.skipBlanks
    (.count skipped, trip.moveTo cursor)
  | .atWord word => (.flag (trip.cursor.atWord word), trip)
  | .eatWord word =>
    let (eaten, cursor) := trip.cursor.eatWord word
    (.flag eaten, trip.moveTo cursor)
  | .quoted =>
    let (body, cursor) := trip.cursor.quoted
    (match body with
      | .ok body => .text body
      | .error error => .error error,
      trip.moveTo cursor)
  | .save =>
    (.count trip.saved.length, { trip with saved := trip.saved ++ [trip.cursor.position] })
  | .restore number =>
    match trip.saved[number]? with
    | some position => (.nothing, trip.moveTo { trip.cursor with position := position })
    | none => (.nothing, trip)

/-- The answers to several moves, each with the position of the cursor after it. -/
def run (trip : Trip) : List Move → List (Answer × Nat)
  | [] => []
  | move :: moves =>
    let (answer, trip) := trip.step move
    (answer, trip.cursor.position) :: run trip moves

end Trip

end FilterQuery
