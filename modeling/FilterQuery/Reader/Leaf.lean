import FilterQuery.Lexeme.Scan
import FilterQuery.Reader.Reply
import FilterQuery.Settings.Basic

/-!
# Reading leaves

Keys, values, attribute pairs and tags at the start of a text. A key and a bare value reach as far
as their characters do; a quoted value reaches to the next quote.

* `readKey`, `readValue`, `readPair`, `readTagName`: what was read and the text behind it.
* `length_readPair_lt`, `length_readTagName_lt`: leaves take up text.
-/

namespace FilterQuery

open Text

/-- The longest run of characters of a class at the start of a text, and the text behind it. An
empty run is a fault. -/
def readRun (p : Char → Bool) (cause : Cause) (text : List Char) :
    Except Fault (String × List Char) :=
  if (text.takeWhile p).isEmpty then
    .error ⟨cause, text⟩
  else
    .ok (String.ofList (text.takeWhile p), text.dropWhile p)

/-- The key at the start of a text, and the text behind it. -/
def readKey (text : List Char) : Except Fault (Key × List Char) :=
  match readRun isKeyChar .noKey text with
  | .ok (name, rest) => .ok (Key.ofRun name, rest)
  | .error fault => .error fault

/-- The value without quotes at the start of a text, and the text behind it. -/
def readBareValue (text : List Char) : Except Fault (String × List Char) :=
  readRun isValueChar .noValue text

/-- The value at the start of a text, and the text behind it. -/
def readValue (text : List Char) : Except Fault (String × List Char) :=
  match text with
  | [] => readBareValue text
  | c :: body =>
    if c = quoteMark then
      match afterQuote? body with
      | some (value, rest) => .ok (String.ofList value, rest)
      | none => .error ⟨.openQuote, text⟩
    else
      readBareValue text

/-- The attribute pair at the start of a text, and the text behind it. -/
def readPair (text : List Char) : Except Fault ((Key × String) × List Char) :=
  match readKey text with
  | .error fault => .error fault
  | .ok (key, ':' :: text) =>
    match readValue text with
    | .error fault => .error fault
    | .ok (value, rest) => .ok ((key, value), rest)
  | .ok (key, text) => .error ⟨.noSeparator key.name, text⟩

/-- The name of a tag at the start of a text, behind the sign, and the text behind the name. -/
def readTagName (polarity : Polarity) (text : List Char) : Except Fault (String × List Char) :=
  readRun isTagChar (.noTagName polarity) text

/-- The records that reading an attribute pair leaves. -/
def pairLog (settings : Settings) (key : Key) (value : String) : Log :=
  let report :=
    if settings.suggestKeys then
      key.suggestion.toList.map (Record.misspelling key.name)
    else
      []
  report ++ [.pair key value]

/-- The reply of a leaf reader that left the records `log`. -/
def leafReply {α : Type} (depth : Nat) (leaf : α → Filter) (log : α → Log) :
    Except Fault (α × List Char) → Reply Filter
  | .ok (value, rest) => .done (leaf value) ⟨rest, depth⟩ (log value)
  | .error fault => .failed fault []

/-- Reads an attribute pair. -/
def pairOperand (settings : Settings) (state : State) : Reply Filter :=
  leafReply state.depth (fun p => .pair p.1 p.2) (fun p => pairLog settings p.1 p.2)
    (readPair state.unread)

/-- Reads the name of a tag whose sign stands before the state's text. -/
def tagOperand (polarity : Polarity) (state : State) : Reply Filter :=
  leafReply state.depth (.tag polarity) (fun name => [.tag polarity name])
    (readTagName polarity state.unread)

theorem length_readRun_lt {p : Char → Bool} {cause : Cause} {text rest : List Char}
    {run : String} (h : readRun p cause text = .ok (run, rest)) : rest.length < text.length := by
  unfold readRun at h
  split at h
  · simp at h
  · next hrun =>
    simp only [Except.ok.injEq, Prod.mk.injEq] at h
    obtain ⟨_, rfl⟩ := h
    exact length_dropWhile_lt (by simpa using hrun)

theorem length_readKey_lt {text rest : List Char} {key : Key}
    (h : readKey text = .ok (key, rest)) : rest.length < text.length := by
  unfold readKey at h
  split at h
  · next hrun =>
    simp only [Except.ok.injEq, Prod.mk.injEq] at h
    obtain ⟨_, rfl⟩ := h
    exact length_readRun_lt hrun
  · simp at h

theorem length_readValue_lt {text rest : List Char} {value : String}
    (h : readValue text = .ok (value, rest)) : rest.length < text.length := by
  unfold readValue at h
  split at h
  · exact length_readRun_lt h
  · split at h
    · split at h
      · next hfound =>
        simp only [Except.ok.injEq, Prod.mk.injEq] at h
        obtain ⟨_, rfl⟩ := h
        obtain ⟨rfl, _⟩ := afterQuote?_eq_some_iff.1 hfound
        simp
        omega
      · simp at h
    · exact length_readRun_lt h

theorem length_readPair_lt {text rest : List Char} {pair : Key × String}
    (h : readPair text = .ok (pair, rest)) : rest.length < text.length := by
  unfold readPair at h
  split at h
  · simp at h
  · next hkey =>
    have hlt := length_readKey_lt hkey
    split at h
    · simp at h
    · next hvalue =>
      simp only [Except.ok.injEq, Prod.mk.injEq] at h
      obtain ⟨_, rfl⟩ := h
      have := length_readValue_lt hvalue
      simp only [List.length_cons] at hlt
      omega
  · simp at h

theorem length_readTagName_lt {polarity : Polarity} {text rest : List Char} {name : String}
    (h : readTagName polarity text = .ok (name, rest)) : rest.length < text.length :=
  length_readRun_lt h

theorem leavesBelow_leafReply {α : Type} {depth limit : Nat} {leaf : α → Filter} {log : α → Log}
    {found : Except Fault (α × List Char)}
    (h : ∀ value rest, found = .ok (value, rest) → rest.length < limit) :
    (leafReply depth leaf log found).LeavesBelow fun _ => limit := by
  match found with
  | .ok (value, rest) => exact h value rest rfl
  | .error fault => trivial

theorem leavesBelow_pairOperand (settings : Settings) (state : State) :
    (pairOperand settings state).LeavesBelow fun _ => state.unread.length :=
  leavesBelow_leafReply fun _ _ => length_readPair_lt

theorem leavesBelow_tagOperand (polarity : Polarity) (state : State) :
    (tagOperand polarity state).LeavesBelow fun _ => state.unread.length :=
  leavesBelow_leafReply fun _ _ => length_readTagName_lt

end FilterQuery
