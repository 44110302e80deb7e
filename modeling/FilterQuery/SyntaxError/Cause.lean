import FilterQuery.Filter.Basic
import FilterQuery.SyntaxError.Basic

/-!
# Causes of syntax errors

What can go wrong while the text of a filter is read, together with what the wording of the error
has to name.

* `Cause.errorAt`: the syntax error that a cause raises at a byte offset.
-/

namespace FilterQuery

/-- Why reading failed. -/
inductive Cause where
  /-- A quoted value has no closing quote. -/
  | openQuote
  /-- A quoted value was asked for where there is no quote. -/
  | noQuote
  /-- There is no value after the separator. -/
  | noValue
  /-- There is no letter where a key was asked for. -/
  | noKey
  /-- There is no separator after the key `name`. -/
  | noSeparator (name : String)
  /-- There is no tag name after the sign of `polarity`. -/
  | noTagName (polarity : Polarity)
  /-- The group that began `span` bytes before has no closing parenthesis. -/
  | openGroup (span : Nat)
  /-- A closing parenthesis closes no group. -/
  | strayClosing
  /-- The character `found` follows a complete filter. -/
  | trailing (found : Char)
  /-- The character `found` follows a complete filter inside a group that is closed later on. -/
  | trailingInGroup (found : Char)
  /-- No operand starts here, but the character `found`, or nothing. -/
  | noOperand (found : Option Char)
  /-- A group would be nested more deeply than `limit`. -/
  | tooDeep (limit : Nat)
  /-- The text has more than `limit` bytes. -/
  | tooLong (limit : Nat)
  deriving DecidableEq, Repr, Inhabited

namespace Cause

/-- The kind of mistake. -/
def kind : Cause → ErrorKind
  | openQuote => .unterminatedQuote
  | noQuote => .emptyValue
  | noValue => .emptyValue
  | noKey => .invalidKey
  | noSeparator _ => .missingSeparator
  | noTagName _ => .emptyTagName
  | openGroup _ => .unmatchedParenthesis
  | strayClosing => .unmatchedParenthesis
  | trailing _ => .trailingInput
  | trailingInGroup _ => .trailingInput
  | noOperand _ => .unrecognizedOperand
  | tooDeep _ => .nestingTooDeep
  | tooLong _ => .inputTooLong

/-- What was expected at the byte offset `position`, where reading failed. -/
def expected (position : Nat) : Cause → String
  | openQuote => "unterminated quoted string"
  | noQuote => "expected opening quote"
  | noValue => "expected a value after ':'"
  | noKey => "expected a key made of letters"
  | noSeparator name => "expected ':' after key '" ++ name ++ "'"
  | noTagName polarity => "expected a tag name after '" ++ polarity.sign.toString ++ "'"
  | openGroup span =>
    "expected closing parenthesis for '(' at position " ++ toString (position - span)
  | strayClosing => "unmatched closing parenthesis"
  | trailing found => "expected end of input, found '" ++ found.toString ++ "'"
  | trailingInGroup found => "expected ')' or another filter, found '" ++ found.toString ++ "'"
  | noOperand (some found) => "expected '(', a key or a tag, found '" ++ found.toString ++ "'"
  | noOperand none => "expected '(', a key or a tag, found end of input"
  | tooDeep limit => "at most " ++ toString limit ++ " nested parentheses"
  | tooLong limit => "at most " ++ toString limit ++ " bytes of input"

/-- The syntax error that the cause raises at the byte offset `position`. -/
def errorAt (cause : Cause) (position : Nat) : SyntaxError :=
  ⟨cause.kind, position, cause.expected position⟩

@[simp]
theorem kind_errorAt (cause : Cause) (position : Nat) :
    (cause.errorAt position).kind = cause.kind := rfl

@[simp]
theorem position_errorAt (cause : Cause) (position : Nat) :
    (cause.errorAt position).position = position := rfl

end Cause

end FilterQuery
