import FilterQuery.Settings.Basic
import FilterQuery.Toml.Document

/-!
# Settings as TOML documents

Settings are kept in files as the assignments of a TOML document. What is not assigned keeps its
default, and what a document holds beside the settings is passed over.

* `Settings.toToml?`: the text of settings, if their numbers have a place in a document.
* `Settings.ofToml`, `Settings.load`: the settings that a text or the content of a file holds.
-/

namespace FilterQuery.Settings

open FilterQuery.Toml (Document)

/-! ## Writing -/

/-- The numbers of a document, which have a sign, lie below this bound. -/
def tomlBound : Nat := UInt64.size / 2

/-- The line that assigns to a setting. -/
def line (name value : String) : String :=
  name ++ " = " ++ value ++ "\n"

/-- The lines that assign to the settings. A length limit that is not set has no line. -/
def lines (settings : Settings) : List String :=
  [line "max_depth" (toString settings.maxDepth)]
    ++ settings.maxLength.toList.map (fun limit => line "max_input_len" (toString limit))
    ++ [line "suggest_builtin_keys" (if settings.suggestKeys then "true" else "false")]

/-- The text of settings. There is none if a number is too large for a document. -/
def toToml? (settings : Settings) : Option String :=
  if settings.maxDepth < tomlBound && settings.maxLength.all (· < tomlBound) then
    some (String.join settings.lines)
  else
    none

/-! ## Reading -/

/-- The value of a setting: its default, or what is read from the assigned value. -/
def assigned {α : Type} (document : Document) (name : String) (default : α)
    (read : Toml → Option α) : Option α :=
  match document.entry? name with
  | none => some default
  | some (.value value) => read value
  | some _ => none

/-- The settings that a document holds. -/
def ofDocument (document : Document) : Option Settings := do
  let defaults : Settings := {}
  let maxDepth ← assigned document "max_depth" defaults.maxDepth (·.nat?)
  let maxLength ← assigned document "max_input_len" defaults.maxLength (·.nat?.map some)
  let suggestKeys ← assigned document "suggest_builtin_keys" defaults.suggestKeys (·.bool?)
  return { maxDepth, maxLength, suggestKeys }

/-- The settings that the text of a document holds. -/
def ofToml (text : String) : Option Settings :=
  (Document.parse text).bind ofDocument

/-- Why settings could not be loaded from a file. -/
inductive LoadError where
  /-- There is no such file. -/
  | missing
  /-- The content of the file is no text. -/
  | notText
  /-- The text is no document that holds settings. -/
  | malformed
  deriving DecidableEq, Repr, Inhabited

/-- What is wrong with a file, if it could not be read as a text. -/
def LoadError.message? : LoadError → Option String
  | missing => some "failed to read parser options: No such file or directory (os error 2)"
  | notText => some "failed to read parser options: stream did not contain valid UTF-8"
  | malformed => none

/-- The settings that a file holds, given its content if there is such a file. -/
def load (content : Option ByteArray) : Except LoadError Settings :=
  match content with
  | none => .error .missing
  | some bytes =>
    match String.fromUTF8? bytes with
    | none => .error .notText
    | some text =>
      match ofToml text with
      | none => .error .malformed
      | some settings => .ok settings

end FilterQuery.Settings
