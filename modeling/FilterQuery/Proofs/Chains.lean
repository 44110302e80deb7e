import FilterQuery.Proofs.Acceptance
import FilterQuery.Proofs.Rendering

/-!
# Chains of filters

A filter is a chain of a connective: its members are what the connective joins along the left edge.
Where the texts of two filters are joined, so are their chains, but the filters are not put
together as they stand: `or` joins all members, and `and` or a blank joins the last member of the
first filter to the first member of the second one only.

* `Filter.members`, `Filter.chain?`: the members of a chain, and the chain of some members.
  `Filter.chain?_members_append`: a filter is the chain of its members.
* `Filter.chain_induction`: induction along the left edge.
* `Written`: a text that derives for a filter whatever follows. `Written.members`: it still does
  with another chain in place of the first member. `LastMember`: the same for the last member.
* `parse_joined_texts`: the filters that the joined texts of two filters are read as.
-/

namespace FilterQuery

open Text

/-! ## Members -/

namespace Filter

/-- The members of the chain of a connective that a filter is. A filter that another connective
joins, or none, is the only member of its chain. -/
def members (connective : Connective) : Filter → List Filter
  | binary left connective' right =>
    if connective' = connective then left.members connective ++ [right]
    else [binary left connective' right]
  | leaf => [leaf]

/-- The chain of some members, grouped to the left; no chain is without members. -/
def chain? (connective : Connective) : List Filter → Option Filter
  | [] => none
  | first :: more => some (more.foldl (binary · connective ·) first)

@[simp]
theorem members_binary (left right : Filter) (connective : Connective) :
    (binary left connective right).members connective = left.members connective ++ [right] := by
  rw [members, if_pos rfl]

example : (both (.either (.tag .includes "a") (.tag .includes "b")) (.tag .includes "c")).members
    .and = [.either (.tag .includes "a") (.tag .includes "b"), .tag .includes "c"] := by
  rfl

/-- Induction along the left edge of a filter: the connective joins it, or it is the only member of
its chain. Then it needs parentheses as the chain if it does so as a member. -/
theorem chain_induction (connective : Connective) {P : Filter → Prop}
    (only : ∀ filter, filter.members connective = [filter] →
      filter.enclosedIn (.chain connective) = filter.enclosedIn connective.member → P filter)
    (joined : ∀ left right, P left → P (binary left connective right)) (filter : Filter) :
    P filter := by
  induction filter with
  | pair | tag => exact only _ rfl (by cases connective <;> rfl)
  | binary left connective' right ih _ =>
    match connective, connective' with
    | .and, .and | .or, .or => exact joined left right ih
    | .and, .or | .or, .and => exact only _ rfl rfl

variable {connective : Connective} {filter : Filter}

/-- A filter with some more members behind its own. -/
theorem chain?_members_append (connective : Connective) (filter : Filter) (more : List Filter) :
    chain? connective (filter.members connective ++ more) =
      some (more.foldl (binary · connective ·) filter) := by
  induction filter using chain_induction connective generalizing more with
  | only filter hself _ =>
    rw [hself]
    rfl
  | joined left right ih =>
    rw [members_binary, List.append_assoc, ih]
    rfl

theorem exists_members (connective : Connective) (filter : Filter) :
    ∃ first more, filter.members connective = first :: more := by
  induction filter using chain_induction connective with
  | only filter hself _ => exact ⟨filter, [], hself⟩
  | joined left right ih =>
    obtain ⟨first, more, hleft⟩ := ih
    exact ⟨first, more ++ [right], by simp [hleft]⟩

/-- The first member of a well-formed chain is well-formed, and its groups nest no deeper. -/
theorem WellFormed.first {first : Filter} {more : List Filter} (h : filter.WellFormed)
    (hmembers : filter.members connective = first :: more) :
    first.WellFormed ∧
      first.groupDepthIn connective.member ≤ filter.groupDepthIn (.chain connective) := by
  induction filter using chain_induction connective generalizing more with
  | only filter hself henclosed =>
    rw [hself] at hmembers
    cases hmembers
    exact ⟨h, by simp [groupDepthIn, henclosed]⟩
  | joined left right ih =>
    obtain ⟨first', more', hleft⟩ := exists_members connective left
    rw [members_binary, hleft, List.cons_append] at hmembers
    cases hmembers
    obtain ⟨hfirst, hdepth⟩ := ih h.1 hleft
    refine ⟨hfirst, Nat.le_trans hdepth ?_⟩
    rw [groupDepthIn, groupDepthIn, enclosedIn_binary, groupDepth_binary]
    exact Nat.le_max_left _ _

end Filter

/-! ## Members replaced -/

section Members

variable {connective : Connective} {limit : Nat}

/-- The text of a filter, with parentheses around it if the part asks for them. -/
def Filter.charsIn (part : Part) (filter : Filter) : List Char :=
  enclose (filter.enclosedIn part) filter.chars

/-- What stands between two members in the text of a filter. -/
def Connective.spaced (connective : Connective) : List Char :=
  [' '] ++ connective.word.toList ++ [' ']

theorem Filter.charsIn_binary (left right : Filter) (connective : Connective) :
    (binary left connective right).charsIn (.chain connective) =
      left.charsIn (.chain connective) ++
        (connective.spaced ++ right.charsIn connective.member) := by
  rw [charsIn, enclosedIn_binary, enclose, if_neg Bool.false_ne_true, chars, parenthesizedLeft_eq,
    parenthesizedRight_eq, List.append_assoc]
  rfl

/-- A text that joins two members wherever it stands, and in which no value goes on. -/
def Separates (connective : Connective) (between : List Char) : Prop :=
  ∀ rest, Stops isValueChar (between ++ rest) ∧ Joint connective (between ++ rest) rest

theorem isValueChar_space : isValueChar ' ' = false := by
  decide +kernel

theorem separates_spaced (connective : Connective) : Separates connective connective.spaced := by
  intro rest
  have hspace : continuesWord ([' '] ++ rest) = false :=
    continuesWord_eq_false_iff.mpr (stops_cons.mpr (by decide +kernel))
  have joint : Joint connective _ rest := .word blanks_space blanks_space hspace
  exact ⟨stops_cons.mpr isValueChar_space, by simpa [Connective.spaced] using joint⟩

theorem separates_space : Separates .and [' '] :=
  fun _ => ⟨stops_cons.mpr isValueChar_space, .blanks blanks_space (List.cons_ne_nil _ _)⟩

/-- The text derives as the part of the filter within the limit, in front of any text in which no
value goes on. -/
def Written (limit : Nat) (part : Part) (filter : Filter) (text : List Char) : Prop :=
  ∀ rest, Stops isValueChar rest → ∃ n, n ≤ limit ∧ Derives part n filter (text ++ rest) rest

theorem Filter.WellFormed.written {filter : Filter} (h : filter.WellFormed) {part : Part}
    (hdepth : filter.groupDepthIn part ≤ limit) :
    Written limit part filter (filter.charsIn part) :=
  fun _ hrest => ⟨_, hdepth, derives_enclose part h.derives hrest⟩

theorem Written.weaken {part part' : Part} {filter : Filter} {text : List Char}
    (h : Written limit part filter text) (hle : part'.binding ≤ part.binding) :
    Written limit part' filter text := by
  intro rest hrest
  obtain ⟨n, hn, derivation⟩ := h rest hrest
  exact ⟨n, hn, derivation.weaken hle⟩

/-- A chain and one more member. -/
theorem Written.joined {left right : Filter} {text between text' : List Char}
    (hleft : Written limit (.chain connective) left text) (hbetween : Separates connective between)
    (hright : Written limit connective.member right text') :
    Written limit (.chain connective) (.binary left connective right)
      (text ++ (between ++ text')) := by
  intro rest hrest
  obtain ⟨hstops, joint⟩ := hbetween (text' ++ rest)
  obtain ⟨m, hm, hleft⟩ := hleft _ hstops
  obtain ⟨n, hn, hright⟩ := hright rest hrest
  refine ⟨max m n, Nat.max_le.mpr ⟨hm, hn⟩, ?_⟩
  simpa using hleft.joined joint hright

variable {filter left right : Filter} {front between : List Char}

/-- If a text is written for another chain in place of the first member, then the text with all
members is written for that chain with the other members behind it. -/
theorem Written.members {first : Filter} {more : List Filter} (hfilter : right.WellFormed)
    (hdepth : right.groupDepthIn (.chain connective) ≤ limit)
    (hmembers : right.members connective = first :: more)
    (hfirst : Written limit (.chain connective) filter
      (front ++ first.charsIn connective.member)) :
    Written limit (.chain connective) (more.foldl (.binary · connective ·) filter)
      (front ++ right.charsIn (.chain connective)) := by
  induction right using Filter.chain_induction connective generalizing more with
  | only right hself henclosed =>
    rw [hself] at hmembers
    cases hmembers
    rwa [Filter.charsIn, henclosed]
  | joined left right ih =>
    obtain ⟨first', more', hleft⟩ := Filter.exists_members connective left
    rw [Filter.members_binary, hleft, List.cons_append] at hmembers
    cases hmembers
    rw [Filter.groupDepthIn, Filter.enclosedIn_binary, Filter.groupDepth_binary] at hdepth
    obtain ⟨hdepthLeft, hdepthRight⟩ := Nat.max_le.mp hdepth
    have hlonger := (ih hfilter.1 hdepthLeft hleft).joined (separates_spaced connective)
      (hfilter.2.written hdepthRight)
    rw [List.foldl_append, Filter.charsIn_binary, ← List.append_assoc]
    exact hlonger

/-- A chain behind another one: its members follow the members of the first one. -/
theorem Written.append (hleft : Written limit (.chain connective) left front)
    (hbetween : Separates connective between) (hright : right.WellFormed)
    (hdepth : right.groupDepthIn (.chain connective) ≤ limit) :
    Written limit (.chain connective)
      ((right.members connective).foldl (.binary · connective ·) left)
      (front ++ between ++ right.charsIn (.chain connective)) := by
  obtain ⟨first, more, hmembers⟩ := Filter.exists_members connective right
  obtain ⟨hfirst, hfirstDepth⟩ := hright.first hmembers
  rw [hmembers, List.foldl_cons]
  refine Written.members hright hdepth hmembers ?_
  rw [List.append_assoc]
  exact hleft.joined hbetween (hfirst.written (Nat.le_trans hfirstDepth hdepth))

/-- The last member of a chain of `or`, behind other members and the text `front`. Any conjunction
may stand in its place; `earlier` is what it then becomes. -/
structure LastMember (limit : Nat) (filter : Filter) (before : List Filter) (last : Filter)
    (front : List Char) (earlier : Filter → Filter) : Prop where
  members : filter.members .or = before ++ [last]
  wellFormed : last.WellFormed
  depth_le : last.groupDepthIn (.chain .and) ≤ limit
  chars : filter.chars = front ++ last.charsIn (.chain .and)
  written : ∀ {conjunction text}, Written limit (.chain .and) conjunction text →
    Written limit (.chain .or) (earlier conjunction) (front ++ text)
  chain : ∀ conjunction more, Filter.chain? .or (before ++ conjunction :: more) =
    some (more.foldl .either (earlier conjunction))

theorem Filter.charsIn_or (filter : Filter) : filter.charsIn (.chain .or) = filter.chars := by
  rw [charsIn, filter.enclosedIn_or, enclose, if_neg Bool.false_ne_true]

theorem Filter.groupDepthIn_or (filter : Filter) :
    filter.groupDepthIn (.chain .or) = filter.groupDepth := by
  rw [groupDepthIn, filter.enclosedIn_or, Bool.toNat_false, Nat.add_zero]

theorem exists_lastMember (h : filter.WellFormed)
    (hdepth : filter.groupDepthIn (.chain .or) ≤ limit) :
    ∃ before last front earlier, LastMember limit filter before last front earlier := by
  induction filter using Filter.chain_induction .or with
  | only filter hself henclosed =>
    refine ⟨[], filter, [], id, hself, h, ?_, ?_, fun hwritten => ?_, fun _ _ => rfl⟩
    · rwa [Filter.groupDepthIn, henclosed] at hdepth
    · rw [← filter.charsIn_or, Filter.charsIn, henclosed]
      rfl
    · exact hwritten.weaken (by decide)
  | joined left right ih =>
    rw [Filter.groupDepthIn, Filter.enclosedIn_binary, Filter.groupDepth_binary] at hdepth
    obtain ⟨hleft, hright⟩ := Nat.max_le.mp hdepth
    refine ⟨left.members .or, right, left.charsIn (.chain .or) ++ Connective.or.spaced,
      left.either, Filter.members_binary left right .or, h.2, hright, ?_, fun hwritten => ?_,
      fun conjunction more => Filter.chain?_members_append .or left (conjunction :: more)⟩
    · rw [← Filter.charsIn_or, Filter.charsIn_binary, List.append_assoc]
      rfl
    · rw [List.append_assoc]
      exact (h.1.written hleft).joined (separates_spaced .or) hwritten

end Members

/-! ## Texts joined -/

section Joined

variable {left right : Filter} {limit : Nat}

theorem Written.parse {settings : Settings} {filter : Filter} {input : String}
    (h : Written settings.maxDepth (.chain .or) filter input.toList)
    (hlength : settings.maxLength = none) : (settings.parse input).result = .ok filter := by
  obtain ⟨n, hn, derivation⟩ := h [] (stops_nil _)
  have hdenotes := Denotes.intro blanks_nil derivation blanks_nil
  rw [List.append_nil] at hdenotes
  exact parse_of_denotes (by simp [hlength]) hn hdenotes

/-- The texts of two filters joined by `or` are written for the chain of the members of both. -/
theorem written_or (hleft : left.WellFormed) (hright : right.WellFormed)
    (hleftDepth : left.groupDepthIn (.chain .or) ≤ limit)
    (hrightDepth : right.groupDepthIn (.chain .or) ≤ limit) :
    ∃ filter, Filter.chain? .or (left.members .or ++ right.members .or) = some filter ∧
      Written limit (.chain .or) filter (left.chars ++ Connective.or.spaced ++ right.chars) := by
  refine ⟨_, Filter.chain?_members_append .or left _, ?_⟩
  have hwritten := (hleft.written hleftDepth).append (separates_spaced .or) hright hrightDepth
  rwa [Filter.charsIn_or, Filter.charsIn_or] at hwritten

/-- The texts of two filters joined by `and`, or by anything else that joins two operands, are
written for a chain of `or` in which the conjunctions next to each other are one. -/
theorem written_and (hleft : left.WellFormed) (hright : right.WellFormed)
    (hleftDepth : left.groupDepthIn (.chain .or) ≤ limit)
    (hrightDepth : right.groupDepthIn (.chain .or) ≤ limit) :
    ∃ before last first behind filter, left.members .or = before ++ [last] ∧
      right.members .or = first :: behind ∧
      Filter.chain? .or (before ++ (first.members .and).foldl .both last :: behind) =
        some filter ∧
      ∀ between, Separates .and between →
        Written limit (.chain .or) filter (left.chars ++ between ++ right.chars) := by
  obtain ⟨before, last, front, earlier, hlast⟩ := exists_lastMember hleft hleftDepth
  obtain ⟨first, behind, hmembers⟩ := Filter.exists_members .or right
  obtain ⟨hfirst, hfirstDepth⟩ := hright.first hmembers
  refine ⟨before, last, first, behind, _, hlast.members, hmembers, hlast.chain _ _,
    fun between hbetween => ?_⟩
  have hconjunction := (hlast.wellFormed.written hlast.depth_le).append hbetween hfirst
    (Nat.le_trans hfirstDepth hrightDepth)
  have hwhole := hlast.written hconjunction
  simp only [← List.append_assoc, ← hlast.chars] at hwhole
  have hmore := hwhole.members hright hrightDepth hmembers
  rwa [Filter.charsIn_or] at hmore

/-- The texts of two well-formed filters, joined by `or`, are read as one chain of all members of
both. Joined by `and` or by a blank, they are read as a chain of `or` in which the last member of
the first filter, with the operands of the first member of the second filter behind it, is one
conjunction; the other members stay what they are. -/
theorem parse_joined_texts (limit : Nat) (report : Bool) (left right : Filter)
    (hleft : left.WellFormed) (hright : right.WellFormed)
    (hleftDepth : (groupsOf left.render.toList).deepest ≤ limit)
    (hrightDepth : (groupsOf right.render.toList).deepest ≤ limit) :
    (∃ filter, Filter.chain? .or (left.members .or ++ right.members .or) = some filter ∧
      (Settings.parse ⟨limit, none, report⟩ (left.render ++ " or " ++ right.render)).result =
        .ok filter) ∧
    ∃ before last first behind filter, left.members .or = before ++ [last] ∧
      right.members .or = first :: behind ∧
      Filter.chain? .or (before ++ (first.members .and).foldl .both last :: behind) =
        some filter ∧
      (Settings.parse ⟨limit, none, report⟩ (left.render ++ " and " ++ right.render)).result =
        .ok filter ∧
      (Settings.parse ⟨limit, none, report⟩ (left.render ++ " " ++ right.render)).result =
        .ok filter := by
  have hdepth : ∀ {filter : Filter}, filter.WellFormed →
      (groupsOf filter.render.toList).deepest ≤ limit →
      filter.groupDepthIn (.chain .or) ≤ limit := by
    intro filter hfilter hdeepest
    rwa [Filter.toList_render, hfilter.denotes.deepest_groupsOf, ← filter.groupDepthIn_or]
      at hdeepest
  replace hleftDepth := hdepth hleft hleftDepth
  replace hrightDepth := hdepth hright hrightDepth
  have hspaced : Connective.or.spaced = " or ".toList ∧ Connective.and.spaced = " and ".toList := by
    decide
  constructor
  · obtain ⟨filter, hchain, hwritten⟩ := written_or hleft hright hleftDepth hrightDepth
    refine ⟨filter, hchain, Written.parse ?_ rfl⟩
    simpa [hspaced.1] using hwritten
  · obtain ⟨before, last, first, behind, filter, hlast, hfirst, hchain, hwritten⟩ :=
      written_and hleft hright hleftDepth hrightDepth
    have hword := hwritten _ (separates_spaced .and)
    have hblank := hwritten _ separates_space
    refine ⟨before, last, first, behind, filter, hlast, hfirst, hchain, Written.parse ?_ rfl,
      Written.parse ?_ rfl⟩
    · simpa [hspaced.2] using hword
    · simpa using hblank

/-- In front of the joint stand parentheses that are kept; behind it stands a conjunction, whose
operands are joined to them one by one. -/
theorem parse_joined_texts_mixed :
    let group := Filter.either (.tag .includes "b") (.ofPair "or" "(")
    let left := Filter.either (.ofPair "é" "1") group
    let right := Filter.either (.both (.tag .excludes "c") (.tag .includes "d")) (.ofPair "e" "")
    let joined := Filter.either (.either (.ofPair "é" "1")
      (.both (.both group (.tag .excludes "c")) (.tag .includes "d"))) (.ofPair "e" "")
    left.WellFormed ∧ right.WellFormed ∧ (groupsOf left.render.toList).deepest ≤ 1 ∧
      (groupsOf right.render.toList).deepest ≤ 1 ∧
      (Settings.parse ⟨1, none, true⟩ (left.render ++ " or " ++ right.render)).result =
        .ok (.either (.either left (.both (.tag .excludes "c") (.tag .includes "d")))
          (.ofPair "e" "")) ∧
      (Settings.parse ⟨1, none, true⟩ (left.render ++ " and " ++ right.render)).result =
        .ok joined ∧
      (Settings.parse ⟨1, none, true⟩ (left.render ++ " " ++ right.render)).result =
        .ok joined := by
  intro group left right joined
  have hleft : left.WellFormed := by decide +kernel
  have hright : right.WellFormed := by decide +kernel
  have hleftDepth : (groupsOf left.render.toList).deepest ≤ 1 := by decide +kernel
  have hrightDepth : (groupsOf right.render.toList).deepest ≤ 1 := by decide +kernel
  obtain ⟨⟨filter, hchain, hparse⟩, before, last, first, behind, filter', hmembers, hmembers',
    hchain', hparses⟩ := parse_joined_texts 1 true left right hleft hright hleftDepth hrightDepth
  cases hchain
  replace hmembers : [Filter.ofPair "é" "1"] ++ [group] = before ++ [last] := hmembers
  obtain ⟨rfl, hlast⟩ := List.append_inj' hmembers rfl
  cases hlast
  cases hmembers'
  cases hchain'
  exact ⟨hleft, hright, hleftDepth, hrightDepth, hparse, hparses⟩

end Joined

end FilterQuery
