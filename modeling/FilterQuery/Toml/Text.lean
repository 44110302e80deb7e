import FilterQuery.Toml.Digits

/-!
# TOML texts and keys

Texts between quotes, of the four kinds that TOML has, and the keys of assignments. Every function
answers with what was read and the text behind it.

* `readString?`: a text of any kind.
* `readKey?`: a dotted key.
-/

namespace FilterQuery.Toml

/-- Whether `c` may stand for itself in a comment: it is no control character but the tab. -/
def isCommentChar (c : Char) : Bool :=
  c == '\t' || (' ' ≤ c && c != '\x7f')

/-- Whether `c` may stand for itself between double quotes. -/
def isBasicChar (c : Char) : Bool :=
  isCommentChar c && c != '"' && c != '\\'

/-- Whether `c` may stand for itself between single quotes. -/
def isLiteralChar (c : Char) : Bool :=
  isCommentChar c && c != '\''

/-- Whether `c` separates words on a line. -/
def isSpace (c : Char) : Bool :=
  c == ' ' || c == '\t'

/-- The character whose scalar value is written in hexadecimal digits. -/
def scalar? (digits : List Char) : Option Char :=
  if h : digits.all isHexDigit = true ∧ (ofDigits 16 digits).isValidChar then
    some (Char.ofNatAux (ofDigits 16 digits) h.2)
  else
    none

/-- The character that a letter stands for behind a backslash. -/
def escape? : Char → Option Char
  | 'b' => some '\x08'
  | 't' => some '\t'
  | 'n' => some '\n'
  | 'f' => some '\x0c'
  | 'r' => some '\r'
  | '"' => some '"'
  | '\\' => some '\\'
  | _ => none

/-- What was read, with one more character before it. -/
def prepend (c : Char) (found : List Char × List Char) : List Char × List Char :=
  (c :: found.1, found.2)

/-! ## Texts on one line -/

/-- A text whose opening quote was read and that ends with a double quote. -/
def basicString? : List Char → Option (List Char × List Char)
  | '"' :: rest => some ([], rest)
  | '\\' :: 'u' :: a :: b :: c :: d :: rest =>
    match scalar? [a, b, c, d], basicString? rest with
    | some character, some found => some (prepend character found)
    | _, _ => none
  | '\\' :: 'U' :: a :: b :: c :: d :: e :: f :: g :: h :: rest =>
    match scalar? [a, b, c, d, e, f, g, h], basicString? rest with
    | some character, some found => some (prepend character found)
    | _, _ => none
  | '\\' :: letter :: rest =>
    match escape? letter, basicString? rest with
    | some character, some found => some (prepend character found)
    | _, _ => none
  | c :: rest => if isBasicChar c then (basicString? rest).map (prepend c) else none
  | [] => none

/-- A text that ends with a single quote, and knows no escapes. -/
def literalString? (text : List Char) : Option (List Char × List Char) :=
  match text.dropWhile isLiteralChar with
  | '\'' :: rest => some (text.takeWhile isLiteralChar, rest)
  | _ => none

/-! ## Texts on several lines -/

/-- The text behind a line break at its start, if there is one. -/
def skipLineBreak : List Char → List Char
  | '\n' :: rest => rest
  | '\r' :: '\n' :: rest => rest
  | text => text

/-- The text behind three quotes, and the quotes before them that still belong to the body. Two
more quotes than three may stand together. -/
def closing? (quote : Char) : List Char → Option (List Char × List Char)
  | a :: b :: c :: rest =>
    if a = quote ∧ b = quote ∧ c = quote then
      match rest with
      | d :: e :: rest' =>
        if d = quote ∧ e = quote then some ([quote, quote], rest')
        else if d = quote then some ([quote], e :: rest')
        else some ([], rest)
      | [d] => if d = quote then some ([quote], []) else some ([], rest)
      | [] => some ([], [])
    else
      none
  | _ => none

/-- Where reading stands behind a backslash that ends a line. -/
inductive Continuation where
  /-- There is no such backslash. -/
  | none
  /-- The end of the line is still to come. -/
  | sameLine
  /-- Blanks and empty lines are passed over. -/
  | nextLine
  deriving DecidableEq, Repr

/-- A text that ends with three double quotes. A backslash at the end of a line takes away the line
break and the blanks and empty lines after it. -/
def longBasicString? : Continuation → List Char → Option (List Char × List Char)
  | .sameLine, ' ' :: rest => longBasicString? .sameLine rest
  | .sameLine, '\t' :: rest => longBasicString? .sameLine rest
  | .sameLine, '\n' :: rest => longBasicString? .nextLine rest
  | .sameLine, '\r' :: '\n' :: rest => longBasicString? .nextLine rest
  | .sameLine, _ => .none
  | .nextLine, ' ' :: rest => longBasicString? .nextLine rest
  | .nextLine, '\t' :: rest => longBasicString? .nextLine rest
  | .nextLine, '\n' :: rest => longBasicString? .nextLine rest
  | .nextLine, '\r' :: '\n' :: rest => longBasicString? .nextLine rest
  | _, '\\' :: 'u' :: a :: b :: c :: d :: rest =>
    match scalar? [a, b, c, d], longBasicString? .none rest with
    | some character, some found => some (prepend character found)
    | _, _ => none
  | _, '\\' :: 'U' :: a :: b :: c :: d :: e :: f :: g :: h :: rest =>
    match scalar? [a, b, c, d, e, f, g, h], longBasicString? .none rest with
    | some character, some found => some (prepend character found)
    | _, _ => none
  | _, '\\' :: ' ' :: rest => longBasicString? .sameLine rest
  | _, '\\' :: '\t' :: rest => longBasicString? .sameLine rest
  | _, '\\' :: '\n' :: rest => longBasicString? .nextLine rest
  | _, '\\' :: '\r' :: '\n' :: rest => longBasicString? .nextLine rest
  | _, '\\' :: letter :: rest =>
    match escape? letter, longBasicString? .none rest with
    | some character, some found => some (prepend character found)
    | _, _ => none
  | _, '\r' :: '\n' :: rest => (longBasicString? .none rest).map (prepend '\n')
  | _, c :: rest =>
    match closing? '"' (c :: rest) with
    | some found => some found
    | none =>
      if isBasicChar c || c == '"' || c == '\n' then
        (longBasicString? .none rest).map (prepend c)
      else
        none
  | _, [] => none

/-- A text that ends with three single quotes. -/
def longLiteralString? : List Char → Option (List Char × List Char)
  | '\r' :: '\n' :: rest => (longLiteralString? rest).map (prepend '\n')
  | c :: rest =>
    match closing? '\'' (c :: rest) with
    | some found => some found
    | none =>
      if isCommentChar c || c == '\n' then (longLiteralString? rest).map (prepend c) else none
  | [] => none

/-- What was read, as a string. -/
def toString? (found : Option (List Char × List Char)) : Option (String × List Char) :=
  found.map fun f => (String.ofList f.1, f.2)

/-- A text of any kind, its quotes included. -/
def readString? : List Char → Option (String × List Char)
  | '"' :: '"' :: '"' :: rest => toString? (longBasicString? .none (skipLineBreak rest))
  | '"' :: rest => toString? (basicString? rest)
  | '\'' :: '\'' :: '\'' :: rest => toString? (longLiteralString? (skipLineBreak rest))
  | '\'' :: rest => toString? (literalString? rest)
  | _ => none

/-! ## Keys -/

/-- The characters of keys without quotes. -/
def isBareKeyChar (c : Char) : Bool :=
  c.isAlphanum || c == '_' || c == '-'

/-- One part of a dotted key. -/
def readKeyPart? : List Char → Option (String × List Char)
  | '"' :: rest => toString? (basicString? rest)
  | '\'' :: rest => toString? (literalString? rest)
  | text =>
    if (text.takeWhile isBareKeyChar).isEmpty then none
    else some (String.ofList (text.takeWhile isBareKeyChar), text.dropWhile isBareKeyChar)

/-- A key of at most `limit` parts with points between them, and blanks around each part. -/
def readKeyParts? : Nat → List Char → Option (List String × List Char)
  | 0, _ => none
  | limit + 1, text =>
    match readKeyPart? (text.dropWhile isSpace) with
    | none => none
    | some (part, rest) =>
      match rest.dropWhile isSpace with
      | '.' :: rest => (readKeyParts? limit rest).map fun found => (part :: found.1, found.2)
      | rest => some ([part], rest)

/-- The most parts that a dotted key may have. -/
def maxKeyParts : Nat := 79

/-- A dotted key. -/
def readKey? (text : List Char) : Option (List String × List Char) :=
  readKeyParts? maxKeyParts text

end FilterQuery.Toml
