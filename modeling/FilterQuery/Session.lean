import FilterQuery.Reader.Parse
import FilterQuery.Settings.Json
import FilterQuery.Settings.Toml

/-!
# Sessions

A session holds settings that are changed step by step, and reads texts under the settings of the
moment.

* `Settings.change`: the settings after a change, or why it failed; a failed change changes nothing.
* `Settings.reload`: settings written as a document and read back.
-/

namespace FilterQuery

/-- A change of settings. -/
inductive Change where
  /-- Back to the defaults. -/
  | reset
  /-- To the settings that the text of a document holds. -/
  | toml (text : String)
  /-- To the settings that a JSON value stands for. -/
  | json (value : Json)
  /-- To another depth limit. -/
  | maxDepth (limit : Nat)
  /-- To a length limit. -/
  | maxLength (limit : Nat)
  /-- To reporting misspelled keys, or to not reporting them. -/
  | suggestKeys (on : Bool)
  /-- To the settings written and read back. -/
  | reload

/-- Why a change failed. -/
inductive ChangeError where
  /-- There is no document that holds the settings. -/
  | toml
  /-- The JSON value stands for no settings. -/
  | json
  deriving DecidableEq, Repr, Inhabited

namespace Settings

/-- The settings written as a document and read back. -/
def reload (settings : Settings) : Option Settings :=
  settings.toToml?.bind ofToml

/-- The settings after a change. -/
def change (settings : Settings) : Change → Except ChangeError Settings
  | .reset => .ok {}
  | .toml text => (ofToml text).elim (.error .toml) .ok
  | .json value => (ofJson value).elim (.error .json) .ok
  | .maxDepth limit => .ok (settings.withMaxDepth limit)
  | .maxLength limit => .ok (settings.withMaxLength limit)
  | .suggestKeys on => .ok { settings with suggestKeys := on }
  | .reload => settings.reload.elim (.error .toml) .ok

end Settings

/-- A step of a session. -/
inductive SessionStep where
  /-- Change the settings. -/
  | change (change : Change)
  /-- Read a text. -/
  | parse (input : String)

/-- What a step of a session brings. -/
inductive SessionAnswer where
  /-- The new settings. -/
  | settings (settings : Settings)
  /-- The settings were not changed. -/
  | failed (error : ChangeError)
  /-- What became of a text. -/
  | outcome (outcome : Outcome)

namespace Settings

/-- What a step brings, and the settings after it. -/
def sessionStep (settings : Settings) : SessionStep → SessionAnswer × Settings
  | .change change =>
    match settings.change change with
    | .ok changed => (.settings changed, changed)
    | .error error => (.failed error, settings)
  | .parse input => (.outcome (settings.parse input), settings)

/-- What the steps of a session bring, one after another. -/
def session (settings : Settings) : List SessionStep → List SessionAnswer
  | [] => []
  | step :: steps =>
    let (answer, settings) := settings.sessionStep step
    answer :: settings.session steps

end Settings

end FilterQuery
