import FilterQuery.Toml.Statement

/-!
# TOML documents

A document is the tables and values that its statements bring about. No statement may bring about
again what is there already: a key has one value, a table one header, and tables that dotted keys
brought about belong to the table in which the keys stand.

* `Document.ofStatements?`: what statements bring about, if they do not clash.
* `Document.parse`: the document that a text is.
* `Document.entry?`: what stands under a key of the document itself.
-/

namespace FilterQuery.Toml

/-- A step on the way to a value: into a table, or to one of the tables of an array. -/
inductive Step where
  /-- To what stands under a key. -/
  | key (name : String)
  /-- To a table of an array of tables. -/
  | item (number : Nat)
  deriving DecidableEq, Repr, Inhabited

/-- The way to a value. -/
abbrev Path := List Step

/-- How a table came about. -/
inductive Origin where
  /-- By the header of a table inside of it. -/
  | implied
  /-- By dotted keys. -/
  | dotted
  /-- By its own header. -/
  | header
  deriving DecidableEq, Repr, Inhabited

/-- What stands at the end of a path. -/
inductive Entry where
  /-- A value. -/
  | value (value : Toml)
  /-- A table. -/
  | table (origin : Origin)
  /-- An array of tables, which has so many of them. -/
  | tables (count : Nat)
  deriving Repr, Inhabited

/-- The entries of a document, the latest one first; of two at the same path the first one
counts. -/
abbrev Document := List (Path × Entry)

namespace Document

/-- The path of a table that a header or a dotted key passes through on its way from `start` along
`names`, and the document with the tables that come about on the way. A header may pass through
every table, a dotted key only through those without a header. -/
def descend? (dotted : Bool) : Document → Path → List String → Option (Path × Document)
  | document, start, [] => some (start, document)
  | document, start, name :: names =>
    let path := start ++ [.key name]
    match document.lookup path with
    | none =>
      let origin := if dotted then Origin.dotted else Origin.implied
      descend? dotted ((path, .table origin) :: document) path names
    | some (.value _) => none
    | some (.tables count) => descend? dotted document (path ++ [.item (count - 1)]) names
    | some (.table origin) =>
      if dotted && origin == .header then none else descend? dotted document path names

/-- Whether a dotted key may assign in the table at a path: one that dotted keys brought about. -/
def isDotted (document : Document) (path : Path) : Bool :=
  match document.lookup path with
  | some (.table origin) => origin == .dotted
  | _ => false

/-- The document after an assignment in the table at the path `current`. -/
def assign? (document : Document) (current : Path) (key : List String) (value : Toml) :
    Option Document := do
  let (table, document) ← descend? true document current key.dropLast
  let path := table ++ [.key (key.getLastD "")]
  if key.length > 1 && !document.isDotted table then none
  else if (document.lookup path).isSome then none
  else some ((path, .value value) :: document)

/-- The path of the table that a header opens, and the document after it. -/
def openTable? (document : Document) (key : List String) : Option (Path × Document) := do
  let (table, document) ← descend? false document [] key.dropLast
  let path := table ++ [.key (key.getLastD "")]
  match document.lookup path with
  | none => some (path, (path, .table .header) :: document)
  | some (.table .implied) => some (path, (path, .table .header) :: document)
  | _ => none

/-- The path of the further table that a header adds to an array of tables, and the document after
it. -/
def openItem? (document : Document) (key : List String) : Option (Path × Document) := do
  let (table, document) ← descend? false document [] key.dropLast
  let path := table ++ [.key (key.getLastD "")]
  match document.lookup path with
  | none => some (path ++ [.item 0], (path, .tables 1) :: document)
  | some (.tables count) => some (path ++ [.item count], (path, .tables (count + 1)) :: document)
  | _ => none

/-- The table in which assignments are made, and the document, after a statement. -/
def step? (state : Path × Document) : Statement → Option (Path × Document)
  | .assign key value => (assign? state.2 state.1 key value).map fun document => (state.1, document)
  | .table key => openTable? state.2 key
  | .tableItem key => openItem? state.2 key

/-- The document that statements bring about, if they do not clash. -/
def ofStatements? (statements : List Statement) : Option Document :=
  (statements.foldlM step? ([], [])).map Prod.snd

/-- The text of a document behind the mark of byte order that it may start with. -/
def skipByteOrderMark : List Char → List Char
  | '\ufeff' :: text => text
  | text => text

/-- The document that a text is. -/
def parse (text : String) : Option Document :=
  (readStatements? (skipByteOrderMark text.toList)).bind ofStatements?

/-- What stands under a key of the document itself. -/
def entry? (document : Document) (name : String) : Option Entry :=
  document.lookup [.key name]

end Document

end FilterQuery.Toml
