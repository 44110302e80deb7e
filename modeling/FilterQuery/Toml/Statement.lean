import FilterQuery.Toml.Literal
import FilterQuery.Toml.Text

/-!
# TOML statements

The lines of a TOML document: assignments and the headers of tables. Arrays and inline tables are
read up to a fixed depth, one level of nesting at a time.

* `readValue?`: a value of any kind.
* `readStatements?`: the statements of a whole document.
-/

namespace FilterQuery.Toml

/-! ## What stands between values -/

/-- The text behind a line break. -/
def afterLineBreak? : List Char → Option (List Char)
  | '\n' :: rest => some rest
  | '\r' :: '\n' :: rest => some rest
  | _ => none

/-- The text behind blanks and a comment, which reaches to the end of the line. -/
def skipComment (text : List Char) : List Char :=
  match text.dropWhile isSpace with
  | '#' :: comment => comment.dropWhile isCommentChar
  | rest => rest

/-- The text behind the end of a line, or the end of the document. -/
def afterLine? (text : List Char) : Option (List Char) :=
  match skipComment text with
  | [] => some []
  | rest => afterLineBreak? rest

theorem length_skipComment_le (text : List Char) : (skipComment text).length ≤ text.length := by
  have hspace := (List.dropWhile_sublist (l := text) isSpace).length_le
  unfold skipComment
  split
  · next comment h =>
    have hcomment := (List.dropWhile_sublist (l := comment) isCommentChar).length_le
    rw [h, List.length_cons] at hspace
    omega
  · exact hspace

theorem length_afterLineBreak?_lt {text rest : List Char} (h : afterLineBreak? text = some rest) :
    rest.length < text.length := by
  unfold afterLineBreak? at h
  split at h
  · simp_all
  · simp only [Option.some.injEq] at h
    subst h
    simp only [List.length_cons]
    omega
  · simp at h

/-- The text behind blanks, comments and line breaks. -/
def skipLines (text : List Char) : List Char :=
  match _h : afterLineBreak? (skipComment text) with
  | some rest => skipLines rest
  | none => text.dropWhile isSpace
termination_by text.length
decreasing_by
  have := length_afterLineBreak?_lt _h
  have := length_skipComment_le text
  omega

/-! ## Values -/

/-- A reader of values in `α`: what was read and the text behind it. -/
abbrev Scan (α : Type) := List Char → Option (α × List Char)

/-- The items of an array and its closing bracket. A comma may follow the last item. -/
def readItems? {α : Type} (item : Scan α) (text : List Char) : Option (List α × List Char) :=
  match skipLines text with
  | ']' :: rest => some ([], rest)
  | start =>
    match item start with
    | none => none
    | some (value, rest) =>
      match skipLines rest with
      | ']' :: rest => some ([value], rest)
      | ',' :: rest =>
        if rest.length < text.length then
          (readItems? item rest).map fun found => (value :: found.1, found.2)
        else
          none
      | _ => none
termination_by text.length

/-- An assignment of a value to a dotted key. -/
def readAssignment? {α : Type} (value : Scan α) : Scan (List String × α) := fun text =>
  match readKey? text with
  | some (key, '=' :: rest) =>
    (value (rest.dropWhile isSpace)).map fun found => ((key, found.1), found.2)
  | _ => none

/-- The assignments of an inline table and its closing brace. -/
def readEntries? {α : Type} (entry : Scan α) (text : List Char) : Option (List α × List Char) :=
  match entry text with
  | none => none
  | some (value, rest) =>
    match rest.dropWhile isSpace with
    | '\x7d' :: rest => some ([value], rest)
    | ',' :: rest =>
      if rest.length < text.length then
        (readEntries? entry rest).map fun found => (value :: found.1, found.2)
      else
        none
    | _ => none
termination_by text.length

/-- The value that is written as a word, or as a date and a time with a blank between them. -/
def readWord? : Scan Toml := fun text =>
  let word := text.takeWhile isWordChar
  let rest := text.dropWhile isWordChar
  match rest with
  | ' ' :: behind =>
    let time := behind.takeWhile isWordChar
    if isDate word && isZonedTime time then
      some (moment (String.ofList (word ++ [' '] ++ time)), behind.dropWhile isWordChar)
    else
      (ofWord? word).map fun value => (value, rest)
  | _ => (ofWord? word).map fun value => (value, rest)

/-- A value that holds no other values. -/
def readScalar? : Scan Toml := fun text =>
  if text.head? == some '"' || text.head? == some '\'' then
    (readString? text).map fun found => (string found.1, found.2)
  else
    readWord? text

/-- Where a dotted key leads inside of an inline table. -/
inductive Slot where
  /-- To a value. -/
  | value
  /-- To a table that dotted keys brought about. -/
  | dotted
  deriving DecidableEq, Repr

/-- The places that are taken inside of an inline table after an assignment to `key`, if the key
clashes with none of those taken before. -/
def takeSlots? (taken : List (List String × Slot)) (key : List String) :
    Option (List (List String × Slot)) :=
  let tables := ((List.range key.length).drop 1).map key.take
  if (taken.lookup key).isSome || tables.any (taken.lookup · == some .value) then
    none
  else
    some ((key, .value) :: tables.map (·, .dotted) ++ taken)

/-- Whether the assignments of an inline table do not clash. -/
def areConsistent (keys : List (List String)) : Bool :=
  (keys.foldlM takeSlots? []).isSome

/-- A value in which arrays and inline tables are nested at most `depth` deep. -/
def readValueAt? : Nat → Scan Toml
  | 0, text => readScalar? text
  | depth + 1, text =>
    match text with
    | '[' :: rest =>
      (readItems? (readValueAt? depth) rest).map fun found => (array found.1, found.2)
    | '\x7b' :: rest =>
      match rest.dropWhile isSpace with
      | '\x7d' :: rest => some (inlineTable [], rest)
      | start =>
        match readEntries? (readAssignment? (readValueAt? depth)) start with
        | some (entries, rest) =>
          if areConsistent (entries.map Prod.fst) then some (inlineTable entries, rest) else none
        | none => none
    | _ => readScalar? text

/-- How deeply arrays and inline tables may be nested. -/
def maxValueDepth : Nat := 79

/-- A value of any kind. -/
def readValue? : Scan Toml :=
  readValueAt? maxValueDepth

/-! ## Statements -/

/-- A statement of a document. -/
inductive Statement where
  /-- An assignment to a dotted key. -/
  | assign (key : List String) (value : Toml)
  /-- The header of a table. -/
  | table (key : List String)
  /-- The header of a further table of an array of tables. -/
  | tableItem (key : List String)
  deriving Repr, Inhabited

/-- The statement that starts with the first character of a text. -/
def readStatement? : Scan Statement := fun text =>
  match text with
  | '[' :: '[' :: rest =>
    match readKey? rest with
    | some (key, ']' :: ']' :: rest) => some (.tableItem key, rest)
    | _ => none
  | '[' :: rest =>
    match readKey? rest with
    | some (key, ']' :: rest) => some (.table key, rest)
    | _ => none
  | _ => (readAssignment? readValue? text).map fun found => (.assign found.1.1 found.1.2, found.2)

/-- The statements of a document, each on lines of its own. -/
def readStatements? (text : List Char) : Option (List Statement) :=
  match skipLines text with
  | [] => some []
  | start =>
    match skipComment start with
    | [] => some []
    | _ =>
      match readStatement? start with
      | none => none
      | some (statement, rest) =>
        match afterLine? rest with
        | some rest =>
          if rest.length < text.length then
            (readStatements? rest).map (statement :: ·)
          else
            none
        | none => none
termination_by text.length

end FilterQuery.Toml
