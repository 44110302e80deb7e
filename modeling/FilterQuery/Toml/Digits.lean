/-!
# Digits

The value of digits in bases up to sixteen.

* `digitValue_digitChar`: a written digit has the value that it was written for.
* `ofDigits_append`: the value of a row of digits, by its parts.
-/

namespace FilterQuery.Toml

/-- Whether `c` is a hexadecimal digit. -/
def isHexDigit (c : Char) : Bool :=
  c.isDigit || ('a' ≤ c && c ≤ 'f') || ('A' ≤ c && c ≤ 'F')

/-- The value of a hexadecimal digit. -/
def digitValue (c : Char) : Nat :=
  if c.isDigit then c.toNat - '0'.toNat
  else if 'a' ≤ c then c.toNat - 'a'.toNat + 10
  else c.toNat - 'A'.toNat + 10

/-- The number that digits of the given base stand for. -/
def ofDigits (base : Nat) (digits : List Char) : Nat :=
  digits.foldl (fun value c => base * value + digitValue c) 0

theorem digitValue_digitChar {n : Nat} (h : n < 10) : digitValue (Nat.digitChar n) = n := by
  have all : ∀ n < 10, digitValue (Nat.digitChar n) = n := by decide
  exact all n h

theorem ofDigits_append (base : Nat) (digits : List Char) (c : Char) :
    ofDigits base (digits ++ [c]) = base * ofDigits base digits + digitValue c := by
  simp [ofDigits]

end FilterQuery.Toml
