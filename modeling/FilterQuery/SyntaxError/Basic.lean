/-!
# Syntax errors

What is wrong with the text of a filter: the kind of mistake, the byte offset at which reading
failed, and what was expected there.

* `SyntaxError.message`: the error on one line.
* `SyntaxError.hint`: advice, for the common kinds of mistake.
-/

namespace FilterQuery

/-- The kinds of mistake in the text of a filter. -/
inductive ErrorKind where
  /-- A quoted value has no closing quote. -/
  | unterminatedQuote
  /-- A separator is not followed by a value. -/
  | emptyValue
  /-- There are no letters where a key should stand. -/
  | invalidKey
  /-- A key is not followed by the separator. -/
  | missingSeparator
  /-- A sign is not followed by the name of a tag. -/
  | emptyTagName
  /-- A parenthesis has no partner. -/
  | unmatchedParenthesis
  /-- Characters are left over after a complete filter. -/
  | trailingInput
  /-- Neither a group nor an attribute pair nor a tag starts here. -/
  | unrecognizedOperand
  /-- Parentheses are nested more deeply than the limit. -/
  | nestingTooDeep
  /-- The text is longer than the limit. -/
  | inputTooLong
  deriving DecidableEq, Repr, Inhabited

namespace ErrorKind

/-- All kinds of mistake. -/
def all : List ErrorKind :=
  [unterminatedQuote, emptyValue, invalidKey, missingSeparator, emptyTagName, unmatchedParenthesis,
    trailingInput, unrecognizedOperand, nestingTooDeep, inputTooLong]

/-- The name of the kind in a message. -/
def text : ErrorKind → String
  | unterminatedQuote => "unterminated quote"
  | emptyValue => "empty value"
  | invalidKey => "invalid key"
  | missingSeparator => "missing separator"
  | emptyTagName => "empty tag name"
  | unmatchedParenthesis => "unmatched parenthesis"
  | trailingInput => "unexpected trailing input"
  | unrecognizedOperand => "unrecognized expression"
  | nestingTooDeep => "nesting too deep"
  | inputTooLong => "input too long"

/-- Advice on how to mend a mistake of this kind. -/
def hint : ErrorKind → Option String
  | unterminatedQuote => some "Add a closing quote (') to complete the value"
  | unmatchedParenthesis => some "Check that every ( has a matching )"
  | missingSeparator => some "Attribute filters are written key:value, e.g. 'project:home'"
  | emptyValue => some "Use quotes for values with spaces, e.g. due:'end of month'"
  | emptyTagName => some "Tags are written +name or -name"
  | _ => none

theorem mem_all (kind : ErrorKind) : kind ∈ all := by
  cases kind <;> decide

end ErrorKind

/-- A mistake in the text of a filter. -/
structure SyntaxError where
  /-- The kind of mistake. -/
  kind : ErrorKind
  /-- The byte offset at which reading failed. -/
  position : Nat
  /-- What was expected at the position. -/
  expected : String
  deriving DecidableEq, Repr, Inhabited

namespace SyntaxError

/-- The error on one line. -/
def message (error : SyntaxError) : String :=
  error.kind.text ++ " at position " ++ toString error.position ++ ": " ++ error.expected

/-- Advice on how to mend the mistake, for the common kinds. -/
def hint (error : SyntaxError) : Option String :=
  error.kind.hint

end SyntaxError

end FilterQuery
