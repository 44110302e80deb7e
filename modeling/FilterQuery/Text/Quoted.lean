import FilterQuery.Text.Visible

/-!
# Quoted texts

How a text is shown inside a log record: between double quotes, with an escape for every character
that would not show, or that would not show alone.

* `quoted`: the quoted form of a text.
* `escape_of_showsAlone`: a character that can be seen stands for itself, unless it is the double
  quote or the backslash.
-/

namespace FilterQuery.Text

/-- The escape that names a character by its scalar value in lower-case hexadecimal digits. -/
def scalarEscape (c : Char) : List Char :=
  ['\\', 'u', '\x7b'] ++ Nat.toDigits 16 c.toNat ++ ['\x7d']

/-- How `c` is written between double quotes. -/
def escape (c : Char) : List Char :=
  match c with
  | '"' => ['\\', '"']
  | '\\' => ['\\', '\\']
  | '\t' => ['\\', 't']
  | '\n' => ['\\', 'n']
  | '\r' => ['\\', 'r']
  | '\x00' => ['\\', '0']
  | _ => if showsAlone c then [c] else scalarEscape c

/-- The text between double quotes, with escapes. -/
def quoted (s : String) : String :=
  String.ofList (['"'] ++ s.toList.flatMap escape ++ ['"'])

theorem escape_of_showsAlone {c : Char} (hquote : c ≠ '"') (hback : c ≠ '\\')
    (hshows : showsAlone c = true) : escape c = [c] := by
  have hgraphic := isGraphic_of_showsAlone hshows
  have hcontrol : ∀ d : Char, isGraphic d = false → c ≠ d := by
    rintro d hd rfl
    simp [hd] at hgraphic
  have htab := hcontrol '\t' (by decide)
  have hfeed := hcontrol '\n' (by decide)
  have hreturn := hcontrol '\r' (by decide)
  have hnull := hcontrol '\x00' (by decide)
  simp [escape, hshows]

end FilterQuery.Text
