import FilterQuery.Proofs.DepthLimit
import FilterQuery.Proofs.Faults
import FilterQuery.Proofs.Rendering

/-!
# Reading back the text of a filter

* `parse_render_iff`: which filters are read back from their text, and where reading stops if only
  the depth limit is in the way.
* `parse_render_of_parse`: the text of a filter that was read needs no more groups than the text it
  was read from, so it is read back under the same depth limit.
-/

namespace FilterQuery

open Text

/-! ## The first group at a depth -/

/-- The text goes on with the first group that opens where `depth` groups are open. -/
structure FirstGroupAt (depth : Nat) (before rest : List Char) : Prop where
  /-- A group opens here. -/
  opens : rest.head? = some '('
  /-- The place is not inside of a quoted value. -/
  quoted : (groupsOf before).quoted = false
  /-- That many groups are open. -/
  opened : (groupsOf before).opened = depth
  /-- No group in front of the place was opened where that many groups were open. -/
  first : ∀ before' rest', before = before' ++ '(' :: rest' →
    (groupsOf before').quoted = false → (groupsOf before').opened ≠ depth

theorem Groups.deepest_le_along (groups : Groups) (text : List Char) :
    groups.deepest ≤ (groups.along text).deepest := by
  induction text generalizing groups with
  | nil => exact Nat.le_refl _
  | cons c text ih =>
    refine Nat.le_trans ?_ (ih (groups.pass c))
    rw [Groups.pass]
    split
    · exact Nat.le_refl _
    · split
      · exact Nat.le_refl _
      · split
        · exact Nat.le_max_left _ _
        · split <;> exact Nat.le_refl _

/-- A group that opens below the limit is the first one at the limit if none was deeper before. -/
theorem Reached.firstGroupAt {limit : Nat} {before rest : List Char}
    (h : Reached limit limit before) (hopens : rest.head? = some '(') :
    FirstGroupAt limit before rest := by
  refine ⟨hopens, h.quoted, h.opened, ?_⟩
  rintro before' rest' rfl hquoted hopened
  have hentered : (groupsOf before').enter.deepest ≤ limit := by
    have hgroups : groupsOf (before' ++ '(' :: rest') = (groupsOf before').enter.along rest' := by
      rw [groupsOf_append, Groups.along_cons, Groups.pass_open hquoted]
    have hdeepest := h.deepest
    rw [hgroups] at hdeepest
    exact Nat.le_trans (Groups.deepest_le_along _ rest') hdeepest
  have hlimit : limit + 1 ≤ (groupsOf before').enter.deepest := by
    rw [← hopened]
    exact Nat.le_max_right _ _
  omega

/-- Reading that the depth limit stops does so at the first group that is too deep. -/
theorem firstGroupAt_of_tooDeep {settings : Settings} {text rest : List Char} {log : Log}
    (h : wholeText settings text = .failed ⟨.tooDeep settings.maxDepth, rest⟩ log) :
    ∃ before, text = before ++ rest ∧ FirstGroupAt settings.maxDepth before rest := by
  obtain ⟨before, depth, htext, hreached, hopens, hopened⟩ := wholeText_justified h
  rw [List.nil_append] at hreached hopened
  obtain rfl : depth = settings.maxDepth := hreached.opened.symm.trans hopened
  exact ⟨before, htext, hreached.firstGroupAt hopens⟩

/-! ## Round trips -/

section RoundTrip

variable {settings : Settings} {filter : Filter}

theorem Filter.WellFormed.parse_render (h : filter.WellFormed)
    (hdepth : filter.groupDepth ≤ settings.maxDepth) (hlength : settings.maxLength = none) :
    (settings.parse filter.render).result = .ok filter := by
  have hdenotes := h.denotes
  rw [← Filter.toList_render] at hdenotes
  exact parse_of_denotes (by simp [hlength]) hdepth hdenotes

theorem wellFormed_of_parse {input : String} (h : (settings.parse input).result = .ok filter) :
    filter.WellFormed ∧ filter.groupDepth ≤ settings.maxDepth := by
  obtain ⟨n, hn, hdenotes⟩ := denotes_of_parse h
  exact ⟨hdenotes.wellFormed, Nat.le_trans hdenotes.groupsOf.1 hn⟩

/-- If only the depth limit is in the way, reading stops at the first group that is too deep: under
a higher limit there would be no fault. -/
theorem Filter.WellFormed.wholeText_tooDeep (h : filter.WellFormed)
    (hdepth : settings.maxDepth < filter.groupDepth) :
    ∃ before rest log, filter.chars = before ++ rest ∧
      FirstGroupAt settings.maxDepth before rest ∧
      wholeText settings filter.chars = .failed ⟨.tooDeep settings.maxDepth, rest⟩ log := by
  have hhigher : wholeText (settings.withMaxDepth filter.groupDepth) filter.chars = _ :=
    wholeText_eq_done h.denotes (Nat.le_refl _)
  rcases wholeText_lowered (Nat.le_of_lt hdepth) filter.chars with hdone | ⟨unread, log, hfailed, -⟩
  · rw [hhigher] at hdone
    obtain ⟨n, hn, hdenotes⟩ := denotes_of_wholeText hdone
    have := hdenotes.groupsOf.1
    omega
  · obtain ⟨before, htext, hfirst⟩ := firstGroupAt_of_tooDeep hfailed
    exact ⟨before, unread, log, htext, hfirst, hfailed⟩

/-- A filter is read back from its text if and only if it is well-formed and its groups nest no
deeper than the limit. If it is well-formed and they do, then reading fails at the first group that
opens inside of as many groups as the limit allows. -/
theorem parse_render_iff (limit : Nat) (report : Bool) (filter : Filter) :
    ((Settings.parse ⟨limit, none, report⟩ filter.render).result = .ok filter ↔
        filter.WellFormed ∧ filter.groupDepth ≤ limit) ∧
      (filter.WellFormed → limit < filter.groupDepth →
        ∃ before rest, filter.render.toList = before ++ rest ∧ FirstGroupAt limit before rest ∧
          (Settings.parse ⟨limit, none, report⟩ filter.render).result =
            .error ⟨.nestingTooDeep, byteLength before,
              "at most " ++ toString limit ++ " nested parentheses"⟩) := by
  constructor
  · constructor
    · exact wellFormed_of_parse
    · rintro ⟨hfilter, hdepth⟩
      exact hfilter.parse_render hdepth rfl
  · intro hfilter hdepth
    have hdepth' : (Settings.mk limit none report).maxDepth < filter.groupDepth := hdepth
    obtain ⟨before, rest, log, htext, hfirst, hwhole⟩ := hfilter.wholeText_tooDeep hdepth'
    rw [← Filter.toList_render] at htext hwhole
    refine ⟨before, rest, htext, hfirst, ?_⟩
    rw [parse_of_fits (by nofun), hwhole]
    have hposition : offset filter.render.toList rest = byteLength before := by
      rw [htext, offset_append]
    rw [← hposition]
    rfl

/-- Without any group allowed, reading stops at the only one, which is behind a quoted
parenthesis. -/
theorem parse_render_iff_nested :
    let filter := Filter.both (.ofPair "é" "(") (.either (.tag .excludes "x") (.ofPair "or" "a:b"))
    filter.WellFormed ∧ 0 < filter.groupDepth ∧
      ∃ before rest, filter.render.toList = before ++ rest ∧ FirstGroupAt 0 before rest ∧
        (Settings.parse ⟨0, none, true⟩ filter.render).result =
          .error ⟨.nestingTooDeep, byteLength before,
            "at most " ++ toString 0 ++ " nested parentheses"⟩ := by
  intro filter
  have hfilter : filter.WellFormed := by decide +kernel
  have hdepth : 0 < filter.groupDepth := by decide +kernel
  exact ⟨hfilter, hdepth, (parse_render_iff 0 true filter).2 hfilter hdepth⟩

/-- The text of a filter that was read has no more groups, and none nested more deeply, than the
text it was read from, and it is read back as the same filter. -/
theorem parse_render_of_parse (settings : Settings) (input : String) (filter : Filter)
    (h : (settings.parse input).result = .ok filter) :
    (groupsOf filter.render.toList).total ≤ (groupsOf input.toList).total ∧
      (groupsOf filter.render.toList).deepest ≤ (groupsOf input.toList).deepest ∧
      (Settings.parse { settings with maxLength := none } filter.render).result = .ok filter := by
  obtain ⟨hfilter, hdepth⟩ := wellFormed_of_parse h
  obtain ⟨n, -, hdenotes⟩ := denotes_of_parse h
  obtain ⟨hn, k, hk, hgroups⟩ := hdenotes.groupsOf
  rw [hgroups, Filter.toList_render, hfilter.groupsOf_chars]
  refine ⟨?_, ?_, hfilter.parse_render hdepth rfl⟩
  · exact Nat.add_le_add_left hk 0
  · have hn' : 0 + filter.groupDepth ≤ 0 + n := Nat.add_le_add_left hn 0
    exact Nat.max_le.mpr ⟨Nat.le_max_left _ _, Nat.le_trans hn' (Nat.le_max_right _ _)⟩

/-- Of three groups that nest two deep, the text of the filter keeps one. -/
theorem parse_render_of_parse_redundant :
    let filter := Filter.both (.ofPair "a" "1") (.either (.tag .includes "x") (.ofPair "b" "2"))
    (Settings.parse ⟨2, some 19, true⟩ "((a:1)) (+x or b:2)").result = .ok filter ∧
      (groupsOf filter.render.toList).total ≤ (groupsOf "((a:1)) (+x or b:2)".toList).total ∧
      (groupsOf filter.render.toList).deepest ≤ (groupsOf "((a:1)) (+x or b:2)".toList).deepest ∧
      (Settings.parse ⟨2, none, true⟩ filter.render).result = .ok filter := by
  intro filter
  have hresult :
      (Settings.parse ⟨2, some 19, true⟩ "((a:1)) (+x or b:2)").result = .ok filter := by
    have hlength : ∀ limit, some 19 = some limit →
        "((a:1)) (+x or b:2)".utf8ByteSize ≤ limit := by
      intro limit h
      obtain rfl := Option.some.inj h
      decide
    have hwhole : wholeText ⟨2, some 19, true⟩ "((a:1)) (+x or b:2)".toList =
        .done filter ⟨[], 0⟩ (filter.readLog ⟨2, some 19, true⟩) := by
      decide +kernel
    rw [parse_of_fits hlength, hwhole]
    rfl
  exact ⟨hresult, parse_render_of_parse _ _ filter hresult⟩

end RoundTrip

end FilterQuery
