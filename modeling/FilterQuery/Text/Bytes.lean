/-!
# Byte offsets in a text

Places in a text are counted in bytes of its UTF-8 form. A place is given either as such an offset
or as the part of the text that starts there.

* `byteLength_toList`: the count agrees with the size of the string.
* `fromByte?_eq_some_iff`: `fromByte?` finds the part that starts at an offset, and only at
  offsets where a character starts or the text ends.
-/

namespace FilterQuery.Text

/-- The number of bytes in the UTF-8 form of a text. -/
def byteLength : List Char → Nat
  | [] => 0
  | c :: text => c.utf8Size + byteLength text

@[simp]
theorem byteLength_nil : byteLength [] = 0 := rfl

@[simp]
theorem byteLength_cons (c : Char) (text : List Char) :
    byteLength (c :: text) = c.utf8Size + byteLength text := rfl

@[simp]
theorem byteLength_append (text rest : List Char) :
    byteLength (text ++ rest) = byteLength text + byteLength rest := by
  induction text with
  | nil => simp
  | cons c text ih => rw [List.cons_append, byteLength_cons, byteLength_cons, ih, Nat.add_assoc]

theorem byteLength_eq_zero_iff {text : List Char} : byteLength text = 0 ↔ text = [] := by
  cases text with
  | nil => simp
  | cons c text =>
    have := c.utf8Size_pos
    simp
    omega

theorem byteLength_toList (s : String) : byteLength s.toList = s.utf8ByteSize := by
  rw [← String.ofList_toList (s := s)]
  generalize s.toList = text
  induction text with
  | nil => simp
  | cons c text ih =>
    rw [String.toList_ofList] at ih ⊢
    rw [byteLength_cons, ih, ← List.singleton_append, String.ofList_append]
    simp

/-- The offset at which `rest` starts in a text that ends with it. -/
def offset (text rest : List Char) : Nat :=
  byteLength text - byteLength rest

theorem offset_append (before rest : List Char) :
    offset (before ++ rest) rest = byteLength before := by
  simp [offset]

/-- Text behind a place does not move it. -/
theorem offset_append_right (text rest more : List Char) :
    offset (text ++ more) (rest ++ more) = offset text rest := by
  rw [offset, byteLength_append, byteLength_append, Nat.add_sub_add_right, offset]

/-- The part of a text from the byte offset `n` on, if no character straddles the offset and the
text is long enough. -/
def fromByte? : List Char → Nat → Option (List Char)
  | text, 0 => some text
  | [], _ + 1 => none
  | c :: text, n + 1 =>
    if c.utf8Size ≤ n + 1 then fromByte? text (n + 1 - c.utf8Size) else none

@[simp]
theorem fromByte?_zero (text : List Char) : fromByte? text 0 = some text := by
  cases text <;> rfl

theorem fromByte?_append (before rest : List Char) :
    fromByte? (before ++ rest) (byteLength before) = some rest := by
  induction before with
  | nil => simp
  | cons c before ih =>
    have := c.utf8Size_pos
    obtain ⟨n, hn⟩ : ∃ n, c.utf8Size + byteLength before = n + 1 :=
      ⟨c.utf8Size + byteLength before - 1, by omega⟩
    rw [List.cons_append, byteLength_cons, hn, fromByte?, if_pos (by omega), ← hn,
      Nat.add_sub_cancel_left, ih]

theorem fromByte?_eq_some_iff {text rest : List Char} {n : Nat} :
    fromByte? text n = some rest ↔ ∃ before, text = before ++ rest ∧ byteLength before = n := by
  constructor
  · intro h
    fun_induction fromByte? text n with
    | case1 text =>
      obtain rfl := Option.some.inj h
      exact ⟨[], rfl, rfl⟩
    | case2 => simp at h
    | case3 c text n hle ih =>
      obtain ⟨before, rfl, hlen⟩ := ih h
      refine ⟨c :: before, rfl, ?_⟩
      rw [byteLength_cons, hlen]
      omega
    | case4 => simp at h
  · rintro ⟨before, rfl, rfl⟩
    exact fromByte?_append before rest

end FilterQuery.Text
