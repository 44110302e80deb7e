import FilterQuery.Filter.Render
import FilterQuery.Reader.Expression

/-!
# Reading whole texts

A text is a filter if one expression takes up all of it, blanks before and behind aside.

* `Settings.parse`: the filter that a text is, or the syntax error, with the log of reading it.
* `Filter.parse`, `Key.parse`, `parseValue`: the same for the default settings and without the
  log, and for the key or the value that a text starts with.
-/

namespace FilterQuery

open Text

/-- Ends reading behind a complete filter, where only blanks may follow. -/
def endOfText (filter : Filter) (state : State) : Reply Filter :=
  match skipBlanks state.unread with
  | [] => .done filter ⟨[], state.depth⟩ []
  | ')' :: rest => .failed ⟨.strayClosing, ')' :: rest⟩ []
  | found :: rest => .failed ⟨.trailing found, found :: rest⟩ []

/-- Reads the filter that a whole text is. -/
def wholeText (settings : Settings) (text : List Char) : Reply Filter :=
  (disjunction settings ⟨skipBlanks text, 0⟩).andThen endOfText

/-- What became of a text, and the log of reading it. -/
structure Outcome where
  /-- The filter that the text is, or what is wrong with it. -/
  result : Except SyntaxError Filter
  /-- The records that reading left. -/
  log : Log

/-- The outcome of reading `input`, which left the given reply. -/
def Outcome.ofReply (input : String) : Reply Filter → Outcome
  | .done filter _ log => ⟨.ok filter, log⟩
  | .failed fault log =>
    let error := fault.errorIn input.toList
    ⟨.error error, log ++ [.failure input error]⟩

/-- Reads a text under the given settings. A text that is too long is not looked at, and leaves
no record. -/
def Settings.parse (settings : Settings) (input : String) : Outcome :=
  match settings.exceededLimit (byteLength input.toList) with
  | some limit => ⟨.error (Cause.errorAt (.tooLong limit) 0), []⟩
  | none => .ofReply input (wholeText settings input.toList)

/-- The filter that a text is under the default settings. -/
def Filter.parse (input : String) : Except SyntaxError Filter :=
  (Settings.parse {} input).result

/-- What a text starts with, if a reader of parts of texts finds it there. -/
def parseStart {α : Type} (read : List Char → Except Fault (α × List Char)) (input : String) :
    Except SyntaxError α :=
  match read input.toList with
  | .ok (value, _) => .ok value
  | .error fault => .error (fault.errorIn input.toList)

/-- The key that a text starts with; what follows it does not matter. -/
def Key.parse (input : String) : Except SyntaxError Key :=
  parseStart readKey input

/-- The value that a text starts with; what follows it does not matter. -/
def parseValue (input : String) : Except SyntaxError String :=
  parseStart readValue input

end FilterQuery
