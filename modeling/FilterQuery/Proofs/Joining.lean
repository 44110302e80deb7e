import FilterQuery.Proofs.Faults
import FilterQuery.Proofs.Following

/-!
# Text behind a filter

What follows a filter in a text may belong to its last conjunction: the reader of disjunctions is
still in the middle of that conjunction where the filter ends.

* `Derives.read_last`: so the reader goes on behind a derived disjunction as the reader of further
  conjuncts, whatever follows.
* `afterJoint?_spelledOut`, `afterJoint?_blank`: `and` between blanks, and a blank alone, lead to
  the same operand.
* `wholeText_spellings`, `parse_spellings_agree`: so both ways to join a text to a filter are read
  in the same way, and if they fail, they do so with the same error.
-/

namespace FilterQuery

open Text

section Joining

variable {settings : Settings}

/-- A derived conjunction may go on with what follows it. -/
theorem Derives.read_conjunction {n depth : Nat} {filter : Filter} {text rest : List Char}
    (h : Derives Connective.or.member n filter text rest) (hn : n ≤ settings.maxDepth - depth) :
    read settings Connective.or.member ⟨text, depth⟩ =
      (readOn settings .and filter ⟨rest, depth⟩).after (filter.readLog settings) :=
  h.read_eq hn fun hpart => nomatch hpart

/-- Behind a disjunction, its last conjunction `last` may go on; `earlier` puts the conjunctions in
front of it before what becomes of it. -/
theorem Derives.read_last {n depth : Nat} {filter : Filter} {text rest : List Char}
    (h : Derives (.chain .or) n filter text rest) (hn : n ≤ settings.maxDepth - depth) :
    ∃ consumed last log, ∃ earlier : Filter → Filter, text = consumed ++ rest ∧ consumed ≠ [] ∧
      ∀ {rest'}, Replaces rest rest' → read settings (.chain .or) ⟨consumed ++ rest', depth⟩ =
        ((readOn settings .and last ⟨rest', depth⟩).andThen
          fun right => readOn settings .or (earlier right)).after log := by
  cases h with
  | single conjunction =>
    obtain ⟨consumed, rfl, hne, hconsumed⟩ := Derives.followed conjunction
    refine ⟨consumed, filter, filter.readLog settings, id, rfl, hne, fun hreplaces => ?_⟩
    rw [read_chain, (hconsumed hreplaces).read_conjunction hn, Reply.after_andThen]
    rfl
  | @joined _ m n left right _ middle middle' _ disjunction joint conjunction =>
    obtain ⟨hm, hn⟩ := Nat.max_le.mp hn
    obtain ⟨consumed, rfl, hne, hconsumed⟩ := disjunction.followed
    obtain ⟨between, rfl, -, hbetween⟩ := joint.followed
    obtain ⟨consumed', rfl, -, hconsumed'⟩ := Derives.followed conjunction
    refine ⟨consumed ++ (between ++ consumed'), right,
      left.readLog settings ++ right.readLog settings, (.binary left .or ·), by simp, by simp [hne],
      fun {rest'} hreplaces => ?_⟩
    have hmiddle : Replaces (consumed' ++ rest) (consumed' ++ rest') := hreplaces.append consumed'
    have joint' := hbetween hmiddle
    have conjunction' := hconsumed' hreplaces
    have hleft := (hconsumed (hmiddle.append between)).read_eq hm
      fun _ => endsConjunction_of_joint joint'
    rw [List.append_assoc, List.append_assoc, hleft, finish_chain,
      readOn_some (afterJoint?_of_joint joint' conjunction'.startsOperand),
      conjunction'.read_conjunction hn, Reply.after_andThen, Reply.after_after]

/-- A chain goes on in the same way in front of two texts where the same member comes next. -/
theorem readOn_congr {connective : Connective} {left : Filter} {text text' unread : List Char}
    {depth : Nat} (h : afterJoint? connective text = some unread)
    (h' : afterJoint? connective text' = some unread) :
    readOn settings connective left ⟨text, depth⟩ =
      readOn settings connective left ⟨text', depth⟩ := by
  rw [readOn_some h, readOn_some h']

/-! ## The two spellings of `and` -/

theorem afterJoint?_spelledOut {behind : List Char} (hbehind : Blanks behind) (more : List Char) :
    afterJoint? .and (behind ++ (" and ".toList ++ more)) = some (skipBlanks more) := by
  have hspace : continuesWord ([' '] ++ more) = false :=
    continuesWord_eq_false_iff.mpr (stops_cons.mpr (by decide +kernel))
  have hword : afterConnective? .and _ = some (skipBlanks more) :=
    afterConnective?_word (hbehind.append blanks_space) blanks_space hspace
  have htext : behind ++ (" and ".toList ++ more) =
      behind ++ [' '] ++ (Connective.and.word.toList ++ ([' '] ++ more)) := by
    simp [Connective.word]
  rw [htext]
  exact afterJoint?_of_afterConnective? hword

theorem afterJoint?_blank {behind more : List Char} (hbehind : Blanks behind)
    (hmore : startsOperand (skipBlanks more) = true) :
    afterJoint? .and (behind ++ (" ".toList ++ more)) = some (skipBlanks more) := by
  obtain ⟨blanks, htext, hblanks⟩ := exists_blanks more
  have joint : Joint .and (behind ++ ([' '] ++ blanks) ++ skipBlanks more) (skipBlanks more) :=
    .blanks (hbehind.append (blanks_space.append hblanks)) (by simp)
  have hsame : behind ++ (" ".toList ++ more) = behind ++ ([' '] ++ blanks) ++ skipBlanks more := by
    rw [List.append_assoc, List.append_assoc, ← htext]
    rfl
  rw [hsame]
  exact afterJoint?_of_joint joint hmore

/-- Behind a filter, both spellings of `and` are read in the same way if an operand starts behind
them. -/
theorem wholeText_spellings {n : Nat} {filter : Filter} {text more : List Char}
    (h : Denotes n filter text) (hn : n ≤ settings.maxDepth)
    (hmore : startsOperand (skipBlanks more) = true) :
    wholeText settings (text ++ (" and ".toList ++ more)) =
      wholeText settings (text ++ (" ".toList ++ more)) := by
  cases h with
  | @intro before text behind hbefore derivation hbehind =>
    have hn : n ≤ settings.maxDepth - 0 := hn
    have hstops := stops_isBlank_of_startsOperand derivation.startsOperand
    obtain ⟨consumed, last, log, earlier, rfl, hne, hread⟩ := derivation.read_last hn
    have hskip : skipBlanks (before ++ (consumed ++ behind)) = consumed ++ behind := by
      rw [skipBlanks_append hbefore, skipBlanks_of_stops hstops]
    have hlonger : ∀ rest, Stops isValueChar rest →
        disjunction settings ⟨skipBlanks (before ++ (consumed ++ behind) ++ rest), 0⟩ =
          ((readOn settings .and last ⟨behind ++ rest, 0⟩).andThen
            fun right => readOn settings .or (earlier right)).after log := by
      intro rest hrest
      have hend : Replaces [] rest := replaces_of_stops hrest
      have hreplaces := hend.append behind
      rw [List.append_nil] at hreplaces
      rw [skipBlanks_extend (by simp [hskip, hne]), hskip, List.append_assoc]
      exact hread hreplaces
    have hspace : isValueChar ' ' = false := by decide +kernel
    have hword : Stops isValueChar (" and ".toList ++ more) := stops_cons.mpr hspace
    have hblank : Stops isValueChar (" ".toList ++ more) := stops_cons.mpr hspace
    rw [wholeText, wholeText, hlonger _ hword, hlonger _ hblank,
      readOn_congr (afterJoint?_spelledOut hbehind more) (afterJoint?_blank hbehind hmore)]

end Joining

/-- A text behind a filter may be joined to it by `and` or by a blank alone, if an operand starts
the text behind its blanks: either way the same filter is read, or reading fails with an error of
the same kind, whose place is further on by the four bytes that the word and a blank take. -/
theorem parse_spellings_agree (limit : Nat) (report : Bool) (input more : String) (filter : Filter)
    (h : (Settings.parse ⟨limit, none, report⟩ input).result = .ok filter)
    (hmore : startsOperand (skipBlanks more.toList) = true) :
    (∃ joined, (Settings.parse ⟨limit, none, report⟩ (input ++ " and " ++ more)).result
        = .ok joined ∧
      (Settings.parse ⟨limit, none, report⟩ (input ++ " " ++ more)).result = .ok joined) ∨
    ∃ error error', (Settings.parse ⟨limit, none, report⟩ (input ++ " and " ++ more)).result
        = .error error ∧
      (Settings.parse ⟨limit, none, report⟩ (input ++ " " ++ more)).result = .error error' ∧
      error.kind = error'.kind ∧ error.position = error'.position + 4 := by
  obtain ⟨n, hn, hdenotes⟩ := denotes_of_parse h
  have hsame := wholeText_spellings hdenotes hn hmore
  rw [parse_of_fits (by nofun), parse_of_fits (by nofun)]
  simp only [String.toList_append, List.append_assoc]
  rw [hsame]
  rcases hwhole : wholeText ⟨limit, none, report⟩ (input.toList ++ (" ".toList ++ more.toList)) with
    ⟨joined, next, log⟩ | ⟨fault, log⟩
  · exact .inl ⟨joined, rfl, rfl⟩
  · refine .inr ⟨_, _, rfl, rfl, rfl, ?_⟩
    obtain ⟨before, htext, -⟩ := exists_position_errorIn hwhole
    have hlength := congrArg byteLength htext
    have hword : byteLength " and ".toList = 5 := by decide +kernel
    have hblank : byteLength " ".toList = 1 := by decide +kernel
    simp only [Fault.errorIn, Cause.position_errorAt, offset, String.toList_append,
      byteLength_append] at hlength ⊢
    omega

/-- The text behind may be wrong in itself: its error is reported from inside of the group. -/
theorem parse_spellings_agree_inGroup :
    let filter := Filter.either (.ofPair "é" "1") (.tag .includes "b")
    (Settings.parse ⟨1, none, true⟩ "é:1 or +b ").result = .ok filter ∧
      startsOperand (skipBlanks " (c:2 and foo)".toList) = true ∧
      ((∃ joined,
        (Settings.parse ⟨1, none, true⟩ ("é:1 or +b " ++ " and " ++ " (c:2 and foo)")).result
          = .ok joined ∧
        (Settings.parse ⟨1, none, true⟩ ("é:1 or +b " ++ " " ++ " (c:2 and foo)")).result
          = .ok joined) ∨
      ∃ error error',
        (Settings.parse ⟨1, none, true⟩ ("é:1 or +b " ++ " and " ++ " (c:2 and foo)")).result
          = .error error ∧
        (Settings.parse ⟨1, none, true⟩ ("é:1 or +b " ++ " " ++ " (c:2 and foo)")).result
          = .error error' ∧
        error.kind = error'.kind ∧ error.position = error'.position + 4) := by
  intro filter
  have hresult : (Settings.parse ⟨1, none, true⟩ "é:1 or +b ").result = .ok filter := by
    have hwhole : wholeText ⟨1, none, true⟩ "é:1 or +b ".toList =
        .done filter ⟨[], 0⟩ (filter.readLog ⟨1, none, true⟩) := by
      decide +kernel
    rw [parse_of_fits (by nofun), hwhole]
    rfl
  have hmore : startsOperand (skipBlanks " (c:2 and foo)".toList) = true := by decide +kernel
  exact ⟨hresult, hmore, parse_spellings_agree 1 true _ _ filter hresult hmore⟩

end FilterQuery
