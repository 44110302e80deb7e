import FilterQuery.Toml.Digits
import FilterQuery.Toml.Value

/-!
# TOML literals

The values that are written as one unquoted word: whole numbers, floating-point numbers, truth
values, dates and times.

* `Toml.ofWord?`: the value that a word is.
* `Toml.digits?`: digits, with single underscores between them left out.
-/

namespace FilterQuery.Toml

/-! ## Digits -/

/-- The digits of a number in which single underscores may separate digits. -/
def digits? (isDigit : Char → Bool) : List Char → Option (List Char)
  | [] => none
  | [c] => if isDigit c then some [c] else none
  | c :: '_' :: rest => if isDigit c then (digits? isDigit rest).map (c :: ·) else none
  | c :: rest => if isDigit c then (digits? isDigit rest).map (c :: ·) else none

/-- The digits of a number in base ten, which does not start with a zero unless it is one. -/
def plainDigits? (word : List Char) : Option (List Char) :=
  (digits? Char.isDigit word).filter fun digits => digits.length = 1 || digits.head? != some '0'

/-- Whether a word starts with a minus sign, and what follows its sign if it has one. -/
def splitSign : List Char → Bool × List Char
  | '-' :: rest => (true, rest)
  | '+' :: rest => (false, rest)
  | word => (false, word)

/-! ## Whole numbers -/

/-- The number, if it has a place among the signed 64-bit numbers. -/
def within64 (value : Int) : Option Int :=
  if Int64.minValue.toInt ≤ value ∧ value ≤ Int64.maxValue.toInt then some value else none

/-- The whole number that a word is. Other bases than ten are marked, and take no sign. -/
def integerOfWord? (word : List Char) : Option Int :=
  match word with
  | '0' :: 'x' :: rest => (digits? isHexDigit rest).bind fun ds => within64 (ofDigits 16 ds)
  | '0' :: 'o' :: rest =>
    (digits? (fun c => '0' ≤ c && c ≤ '7') rest).bind fun ds => within64 (ofDigits 8 ds)
  | '0' :: 'b' :: rest =>
    (digits? (fun c => c == '0' || c == '1') rest).bind fun ds => within64 (ofDigits 2 ds)
  | _ =>
    let (negative, rest) := splitSign word
    (plainDigits? rest).bind fun ds =>
      within64 (if negative then -(ofDigits 10 ds : Int) else ofDigits 10 ds)

/-! ## Floating-point numbers -/

/-- The least number that is too large for a double-precision number: from here on it would be
rounded to a power of two that none of them reaches. -/
def doubleBound : Nat := Nat.pow 2 1024 - Nat.pow 2 970

/-- Whether `mantissa * 10 ^ exponent` is too large for a double-precision number. Numbers that
are far from the bound are told apart by their number of digits. -/
def overflowsDouble (mantissa : Nat) (exponent : Int) : Bool :=
  let magnitude := (Nat.toDigits 10 mantissa).length + exponent
  if mantissa = 0 || magnitude < 309 then false
  else if magnitude > 310 then true
  else doubleBound * Nat.pow 10 (-exponent).toNat ≤ mantissa * Nat.pow 10 exponent.toNat

/-- The exponent that follows the mark `e`. -/
def exponentOfWord? (word : List Char) : Option Int :=
  let (negative, rest) := splitSign word
  (digits? Char.isDigit rest).map fun ds =>
    if negative then -(ofDigits 10 ds : Int) else ofDigits 10 ds

/-- The digits before and behind the point and the exponent of a floating-point number without its
sign. A point or an exponent must be there, and digits on both sides of the point. -/
def floatParts? (word : List Char) : Option (List Char × List Char × Int) :=
  let isMark := fun c : Char => c == 'e' || c == 'E'
  let mantissa := word.takeWhile (!isMark ·)
  let whole := mantissa.takeWhile (· != '.')
  match plainDigits? whole, mantissa.dropWhile (· != '.'), word.dropWhile (!isMark ·) with
  | some whole, '.' :: fraction, [] =>
    (digits? Char.isDigit fraction).map fun fraction => (whole, fraction, 0)
  | some whole, '.' :: fraction, _ :: exponent =>
    (digits? Char.isDigit fraction).bind fun fraction =>
      (exponentOfWord? exponent).map fun exponent => (whole, fraction, exponent)
  | some whole, [], _ :: exponent =>
    (exponentOfWord? exponent).map fun exponent => (whole, [], exponent)
  | _, _, _ => none

/-- Whether a word is a floating-point number. A number that is too large is none, unless it is
negative. -/
def isFloat (word : List Char) : Bool :=
  let (negative, rest) := splitSign word
  if rest == ['i', 'n', 'f'] || rest == ['n', 'a', 'n'] then
    true
  else
    match floatParts? rest with
    | some (whole, fraction, exponent) =>
      negative || !overflowsDouble (ofDigits 10 (whole ++ fraction)) (exponent - fraction.length)
    | none => false

/-! ## Dates and times -/

/-- The number that a word of two digits is. -/
def twoDigits? : List Char → Option Nat
  | [a, b] => if a.isDigit && b.isDigit then some (ofDigits 10 [a, b]) else none
  | _ => none

/-- The number of days of a month. -/
def daysInMonth (year month : Nat) : Nat :=
  if month = 2 then
    if year % 4 = 0 ∧ (year % 100 ≠ 0 ∨ year % 400 = 0) then 29 else 28
  else if month = 4 ∨ month = 6 ∨ month = 9 ∨ month = 11 then 30
  else 31

/-- Whether a word is a date, written `yyyy-mm-dd`. -/
def isDate : List Char → Bool
  | [y₁, y₂, y₃, y₄, '-', m₁, m₂, '-', d₁, d₂] =>
    [y₁, y₂, y₃, y₄].all Char.isDigit &&
      match twoDigits? [m₁, m₂], twoDigits? [d₁, d₂] with
      | some month, some day =>
        1 ≤ month && month ≤ 12 && 1 ≤ day && day ≤ daysInMonth (ofDigits 10 [y₁, y₂, y₃, y₄]) month
      | _, _ => false
  | _ => false

/-- Whether two digits are a number up to `last`. -/
def isUpTo (last : Nat) (word : List Char) : Bool :=
  match twoDigits? word with
  | some value => value ≤ last
  | none => false

/-- What follows a time, written `hh:mm:ss` with or without a fraction of the second. -/
def afterTime? : List Char → Option (List Char)
  | h₁ :: h₂ :: ':' :: m₁ :: m₂ :: ':' :: s₁ :: s₂ :: rest =>
    if isUpTo 23 [h₁, h₂] && isUpTo 59 [m₁, m₂] && isUpTo 60 [s₁, s₂] then
      match rest with
      | '.' :: fraction =>
        if (fraction.takeWhile Char.isDigit).isEmpty then none
        else some (fraction.dropWhile Char.isDigit)
      | _ => some rest
    else
      none
  | _ => none

/-- Whether a word is the difference to universal time, written `Z` or `±hh:mm`. -/
def isTimeZone : List Char → Bool
  | [c] => c == 'Z' || c == 'z'
  | [sign, h₁, h₂, ':', m₁, m₂] =>
    (sign == '+' || sign == '-') && isUpTo 23 [h₁, h₂] && isUpTo 59 [m₁, m₂]
  | _ => false

/-- Whether a word is a time. -/
def isTime (word : List Char) : Bool :=
  afterTime? word == some []

/-- Whether a word is a time, with or without the difference to universal time. -/
def isZonedTime (word : List Char) : Bool :=
  match afterTime? word with
  | some [] => true
  | some zone => isTimeZone zone
  | none => false

/-- Whether a word is a date, a time, or both with the letter `T` between them. -/
def isMoment (word : List Char) : Bool :=
  isDate word || isTime word ||
    match word.drop 10 with
    | c :: time => (c == 'T' || c == 't') && isDate (word.take 10) && isZonedTime time
    | [] => false

/-! ## Words -/

/-- The characters of unquoted values. -/
def isWordChar (c : Char) : Bool :=
  c.isAlphanum || c == '+' || c == '-' || c == '.' || c == '_' || c == ':'

/-- The value that a word is. -/
def ofWord? (word : List Char) : Option Toml :=
  if word == "true".toList then some (boolean true)
  else if word == "false".toList then some (boolean false)
  else
    match integerOfWord? word with
    | some value => some (integer value)
    | none =>
      if isFloat word then some (float (String.ofList word))
      else if isMoment word then some (moment (String.ofList word))
      else none

end FilterQuery.Toml
