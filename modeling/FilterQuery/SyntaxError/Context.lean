import FilterQuery.SyntaxError.Basic
import FilterQuery.Text.Bytes

/-!
# Syntax errors shown in their text

An error is shown as a message, the text of the filter and a marker below the failing character,
followed by the advice if there is any.

* `SyntaxError.inContext`: the error with the text that it is about.
* `column_byteLength`: at the start of a character the column is the number of characters before.
-/

namespace FilterQuery

open Text

/-- The column of a byte offset: the number of characters before it. Past the end it is the column
of the end, and inside a character, where no column exists, the offset itself. -/
def column (text : List Char) (position : Nat) : Nat :=
  let place := min position (byteLength text)
  match fromByte? text place with
  | some rest => text.length - rest.length
  | none => place

/-- The error as a message, the text it is about, a marker below the failing character and the
advice. -/
def SyntaxError.inContext (error : SyntaxError) (input : String) : String :=
  let marker := "".pushn ' ' (column input.toList error.position) ++ "^"
  let shown := "filter syntax error: " ++ error.expected ++ "\n  " ++ input ++ "\n  " ++ marker
  match error.hint with
  | some hint => shown ++ "\nhint: " ++ hint
  | none => shown

theorem column_byteLength (before rest : List Char) :
    column (before ++ rest) (byteLength before) = before.length := by
  simp [column, fromByte?_append]

end FilterQuery
