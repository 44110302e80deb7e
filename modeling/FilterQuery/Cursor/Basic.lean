import FilterQuery.Lexeme.Scan
import FilterQuery.SyntaxError.Cause
import FilterQuery.Text.Bytes

/-!
# Cursors

A cursor is a byte offset in a text. It serves tools that go through the text of a filter piece by
piece. An offset inside a character would leave nothing to read, but no operation moves a cursor
there.

* `Cursor.unread_mk`: behind the part that was read stands the rest.
-/

namespace FilterQuery

open Text

/-- A place in a text. -/
structure Cursor where
  /-- The text. -/
  text : List Char
  /-- The number of bytes before the place. -/
  position : Nat
  deriving DecidableEq, Repr, Inhabited

namespace Cursor

/-- The cursor at the start of a text. -/
def start (input : String) : Cursor :=
  ⟨input.toList, 0⟩

/-- The text from the cursor on. -/
def unread (cursor : Cursor) : List Char :=
  (fromByte? cursor.text cursor.position).getD []

/-- Whether the cursor is at the end of the text. -/
def atEnd (cursor : Cursor) : Bool :=
  byteLength cursor.text ≤ cursor.position

/-- The character at the cursor. -/
def peek (cursor : Cursor) : Option Char :=
  cursor.unread.head?

/-- The cursor moved on by a number of bytes. -/
def advance (cursor : Cursor) (bytes : Nat) : Cursor :=
  { cursor with position := cursor.position + bytes }

/-- Takes the character at the cursor. -/
def next (cursor : Cursor) : Option Char × Cursor :=
  match cursor.peek with
  | some c => (some c, cursor.advance c.utf8Size)
  | none => (none, cursor)

/-- Takes the character at the cursor if it is the expected one. -/
def eat (expected : Char) (cursor : Cursor) : Bool × Cursor :=
  if cursor.peek = some expected then
    (true, cursor.advance expected.utf8Size)
  else
    (false, cursor)

/-- Takes the longest run of characters of a class. -/
def takeWhile (p : Char → Bool) (cursor : Cursor) : List Char × Cursor :=
  let run := cursor.unread.takeWhile p
  (run, cursor.advance (byteLength run))

/-- Takes the blanks at the cursor, and tells how many bytes they are. -/
def skipBlanks (cursor : Cursor) : Nat × Cursor :=
  let (blanks, rest) := cursor.takeWhile isBlank
  (byteLength blanks, rest)

/-- Whether a word stands at the cursor and does not run on. -/
def atWord (word : List Char) (cursor : Cursor) : Bool :=
  (afterWord? word cursor.unread).isSome

/-- Takes a word at the cursor that does not run on. -/
def eatWord (word : List Char) (cursor : Cursor) : Bool × Cursor :=
  if cursor.atWord word then
    (true, cursor.advance (byteLength word))
  else
    (false, cursor)

/-- Takes a quoted value, and answers with its body. Without a closing quote the cursor ends up at
the end of the text. -/
def quoted (cursor : Cursor) : Except SyntaxError (List Char) × Cursor :=
  match cursor.eat quoteMark with
  | (false, _) => (.error (Cause.noQuote.errorAt cursor.position), cursor)
  | (true, inside) =>
    let (body, behind) := inside.takeWhile (· != quoteMark)
    match behind.eat quoteMark with
    | (false, _) => (.error (Cause.openQuote.errorAt cursor.position), behind)
    | (true, rest) => (.ok body, rest)

@[simp]
theorem unread_mk (before rest : List Char) :
    unread ⟨before ++ rest, byteLength before⟩ = rest := by
  simp [unread, fromByte?_append]

end Cursor

end FilterQuery
