import FilterQuery.Filter.Basic
import FilterQuery.Lexeme.Classes

/-!
# Scanning the start of a text

Blanks, words and quoted values at the start of a text. Each function answers with what is left
of the text behind what it found.

* `afterWord?_eq_some_iff`: a word counts only if it does not run on into a letter, a numeral or
  a colon.
* `afterQuote?_eq_some_iff`: a quoted value ends at the first quote.
* `length_afterConnective?_lt`: a connective takes up text.
-/

namespace FilterQuery

open Text

/-- The text behind its leading blanks. -/
def skipBlanks (text : List Char) : List Char :=
  text.dropWhile isBlank

/-- Whether a text continues a word that ends before it. -/
def continuesWord : List Char → Bool
  | [] => false
  | c :: _ => isAlphanumeric c || c == ':'

/-- The text behind `word`, if it starts with that word. -/
def afterWord? (word text : List Char) : Option (List Char) :=
  if word.isPrefixOf text && !continuesWord (text.drop word.length) then
    some (text.drop word.length)
  else
    none

/-- The text behind a connective and the blanks around it, if the connective is next. -/
def afterConnective? (connective : Connective) (text : List Char) : Option (List Char) :=
  (afterWord? connective.word.toList (skipBlanks text)).map skipBlanks

/-- The body of a quoted value whose opening quote stands before the text, and what follows the
closing quote, if there is one. -/
def afterQuote? (text : List Char) : Option (List Char × List Char) :=
  match text.dropWhile (· != quoteMark) with
  | [] => none
  | _ :: rest => some (text.takeWhile (· != quoteMark), rest)

theorem length_dropWhile_le (p : Char → Bool) (text : List Char) :
    (text.dropWhile p).length ≤ text.length :=
  (List.dropWhile_sublist p).length_le

theorem length_skipBlanks_le (text : List Char) : (skipBlanks text).length ≤ text.length :=
  length_dropWhile_le isBlank text

theorem length_dropWhile_lt {p : Char → Bool} {text : List Char} (h : text.takeWhile p ≠ []) :
    (text.dropWhile p).length < text.length := by
  have hlen : (text.takeWhile p ++ text.dropWhile p).length = text.length := by
    rw [List.takeWhile_append_dropWhile]
  have := List.length_pos_iff.2 h
  rw [List.length_append] at hlen
  omega

theorem afterWord?_eq_some_iff {word text rest : List Char} :
    afterWord? word text = some rest ↔ text = word ++ rest ∧ continuesWord rest = false := by
  unfold afterWord?
  constructor
  · intro h
    split at h
    · next hword =>
      simp only [Bool.and_eq_true, List.isPrefixOf_iff_prefix, Bool.not_eq_true'] at hword
      obtain ⟨⟨t, rfl⟩, hnot⟩ := hword
      simp_all
    · simp at h
  · rintro ⟨rfl, hnot⟩
    simp [hnot]

theorem afterQuote?_eq_some_iff {text body rest : List Char} :
    afterQuote? text = some (body, rest) ↔ text = body ++ quoteMark :: rest ∧ quoteMark ∉ body := by
  induction text generalizing body with
  | nil => simp [afterQuote?]
  | cons c text ih =>
    by_cases hc : c = quoteMark
    · subst hc
      cases body with
      | nil => simp [afterQuote?, eq_comm]
      | cons b body => simp +contextual [afterQuote?, eq_comm]
    · have hstep : afterQuote? (c :: text)
          = (afterQuote? text).map fun found => (c :: found.1, found.2) := by
        simp only [afterQuote?, List.dropWhile_cons, List.takeWhile_cons, bne_iff_ne, ne_eq, hc,
          not_false_eq_true, if_true]
        split <;> simp_all
      rw [hstep]
      cases body with
      | nil => simp [hc]
      | cons b body =>
        simp only [Option.map_eq_some_iff, Prod.mk.injEq, Prod.exists, List.cons.injEq,
          List.cons_append, List.mem_cons, not_or]
        constructor
        · rintro ⟨body', rest', hfound, ⟨rfl, rfl⟩, rfl⟩
          obtain ⟨rfl, hnot⟩ := ih.1 hfound
          exact ⟨⟨rfl, rfl⟩, fun h => hc h.symm, hnot⟩
        · rintro ⟨⟨rfl, htext⟩, _, hnot⟩
          exact ⟨body, rest, ih.2 ⟨htext, hnot⟩, ⟨rfl, rfl⟩, rfl⟩

theorem length_afterConnective?_lt {connective : Connective} {text rest : List Char}
    (h : afterConnective? connective text = some rest) : rest.length < text.length := by
  obtain ⟨behind, hbehind, rfl⟩ := Option.map_eq_some_iff.1 h
  have hskip := length_skipBlanks_le text
  rw [(afterWord?_eq_some_iff.1 hbehind).1, List.length_append] at hskip
  have hword : 0 < connective.word.toList.length := by
    cases connective <;> decide
  have := length_skipBlanks_le behind
  omega

end FilterQuery
