import FilterQuery.Proofs.Assignments
import FilterQuery.Settings.Json

/-!
# Settings that were stored

Settings are read back from what was written for them, as long as their numbers have a place in it:
below two to the 63rd in a document, below two to the 64th in a JSON value. Others may have written
the same settings differently.

* `Rewritten`: fields in any order, without some that are as by default and among other entries.
  `Rewritten.read`: what is read under a name is the same as before.
* `words`, `members`: the fields as the lines of a document and as the members of an object.
* `ofToml_rewritten`, `ofJson_rewritten`: both are read as the settings after they were rewritten.
* `read_stored`: the theorem for both, for a file with the document, and for what was written.
-/

namespace FilterQuery.Settings

open Toml (Document Entry IsAssignment Word lineOf)

/-- The numbers of the settings lie below a bound. -/
structure Below (settings : Settings) (bound : Nat) : Prop where
  maxDepth : settings.maxDepth < bound
  maxLength : ∀ limit, settings.maxLength = some limit → limit < bound

/-! ## Rewriting the fields -/

section Rewritten

variable {α β : Type} {fields defaults entries : List (String × α)} {other : String × α → Prop}

/-- The entries hold the fields of settings, in any order. A field that is among the defaults may be
left out. Further entries may stand between the fields, if they are called differently than
settings, and than each other. -/
inductive Rewritten (fields defaults : List (String × α)) (other : String × α → Prop) :
    List (String × α) → Prop
  | intro {kept extra entries : List (String × α)} : kept.Sublist fields →
      (∀ field ∈ fields, field ∉ kept → field ∈ defaults) →
      (∀ entry ∈ extra, entry.1 ∉ fieldNames ∧ other entry) → (extra.map Prod.fst).Nodup →
      entries.Perm (kept ++ extra) → Rewritten fields defaults other entries

theorem Rewritten.refl : Rewritten fields defaults other fields := by
  have hperm : fields.Perm (fields ++ []) := by simp
  exact .intro (List.Sublist.refl fields) (fun _ hmem hnot => absurd hmem hnot) (by simp) (by simp)
    hperm

/-- A field is found, or it was left out. -/
theorem Rewritten.lookup (h : Rewritten fields defaults other entries)
    (hnodup : (fields.map Prod.fst).Nodup) {name : String} (hname : name ∈ fieldNames) :
    entries.lookup name = fields.lookup name ∨
      entries.lookup name = none ∧ ∃ value ∈ fields.lookup name, (name, value) ∈ defaults := by
  cases h with
  | @intro kept extra _ hkept hdefaults hextra hextraKeys hperm =>
    have hkeptKeys : (kept.map Prod.fst).Nodup := hnodup.sublist (hkept.map _)
    have hnames : ∀ entry ∈ extra, entry.1 ≠ name := fun entry hentry heq =>
      (hextra entry hentry).1 (heq ▸ hname)
    rw [lookup_of_perm hperm hkeptKeys hnames]
    rcases hlookup : fields.lookup name with _ | value
    · left
      refine lookup_eq_none_of_ne fun entry hentry heq => ?_
      have hne := List.lookup_eq_none_iff.mp hlookup entry (hkept.subset hentry)
      exact bne_iff_ne.mp hne heq.symm
    · have hfield := mem_of_lookup hlookup
      have honly : ∀ value', (name, value') ∈ kept → value' = value :=
        fun value' hmem => value_of_nodup hnodup hfield (hkept.subset hmem)
      by_cases hmem : (name, value) ∈ kept
      · exact .inl (lookup_eq_some_of_mem hmem honly)
      · refine .inr ⟨?_, value, rfl, hdefaults _ hfield hmem⟩
        refine lookup_eq_none_of_ne fun entry hentry heq => hmem ?_
        obtain ⟨name', value'⟩ := entry
        obtain rfl : name' = name := heq
        rwa [← honly value' hentry]

/-- What is read under a name from the fields is also read from the entries, if the default is read
from the defaults. -/
theorem Rewritten.read (h : Rewritten fields defaults other entries)
    (hnodup : (fields.map Prod.fst).Nodup) (hnodupDefaults : (defaults.map Prod.fst).Nodup)
    {name : String} (hname : name ∈ fieldNames) {read : α → Option β} {default setting : β}
    (hfield : (fields.lookup name).elim (some default) read = some setting)
    (hdefault : (defaults.lookup name).elim (some default) read = some default) :
    (entries.lookup name).elim (some default) read = some setting := by
  rcases h.lookup hnodup hname with hlookup | ⟨hlookup, value, hvalue, hmem⟩
  · rwa [hlookup]
  · -- The field holds the default, so leaving it out makes no difference.
    have hlookupDefault : defaults.lookup name = some value :=
      lookup_eq_some_of_mem hmem fun _ => value_of_nodup hnodupDefaults hmem
    rw [hlookup, Option.elim_none, ← hdefault, hlookupDefault, ← hfield, Option.mem_def.mp hvalue]

theorem Rewritten.forall {P : String × α → Prop} (h : Rewritten fields defaults other entries)
    (hfields : ∀ field ∈ fields, P field) (hother : ∀ entry, other entry → P entry) :
    ∀ entry ∈ entries, P entry := by
  cases h with
  | intro hkept _ hextra _ hperm =>
    intro entry hentry
    rcases List.mem_append.mp (hperm.mem_iff.mp hentry) with hmem | hmem
    · exact hfields entry (hkept.subset hmem)
    · exact hother entry (hextra entry hmem).2

theorem Rewritten.nodup (h : Rewritten fields defaults other entries)
    (hnodup : (fields.map Prod.fst).Nodup) (hnames : ∀ field ∈ fields, field.1 ∈ fieldNames) :
    (entries.map Prod.fst).Nodup := by
  cases h with
  | @intro kept extra _ hkept _ hextra hextraKeys hperm =>
    rw [(hperm.map Prod.fst).nodup_iff, List.map_append, List.nodup_append]
    refine ⟨hnodup.sublist (hkept.map _), hextraKeys, ?_⟩
    rintro name hkeptName name' hextraName rfl
    obtain ⟨field, hfield, rfl⟩ := List.mem_map.mp hkeptName
    obtain ⟨entry, hentry, heq⟩ := List.mem_map.mp hextraName
    exact (hextra entry hentry).1 (heq ▸ hnames field (hkept.subset hfield))

end Rewritten

/-! ## TOML -/

section Toml

variable {settings : Settings} {entries : List (String × Word)}

/-- The words that the lines of settings assign. -/
def words (settings : Settings) : List (String × Word) :=
  [("max_depth", .integer settings.maxDepth)]
    ++ settings.maxLength.toList.map (fun limit => ("max_input_len", .integer limit))
    ++ [("suggest_builtin_keys", .boolean settings.suggestKeys)]

theorem lines_eq (settings : Settings) : settings.lines = settings.words.map lineOf := by
  obtain ⟨maxDepth, _ | limit, suggestKeys⟩ := settings <;> rfl

theorem nodup_words (settings : Settings) : (settings.words.map Prod.fst).Nodup := by
  obtain ⟨maxDepth, _ | limit, suggestKeys⟩ := settings <;> simp [words]

theorem fieldNames_words (settings : Settings) :
    ∀ entry ∈ settings.words, entry.1 ∈ fieldNames := by
  obtain ⟨maxDepth, _ | limit, suggestKeys⟩ := settings <;> simp [words, fieldNames]

theorem fits_natCast {n : Nat} (h : n < tomlBound) : (Word.integer n).Fits := by
  have hbound : tomlBound = 9223372036854775808 := rfl
  exact Toml.within64_iff.mpr (by omega)

theorem run_fieldNames : ∀ name ∈ fieldNames, Run Toml.isBareKeyChar name.toList := by
  decide

theorem Below.isAssignment (h : settings.Below tomlBound) :
    ∀ entry ∈ settings.words, IsAssignment entry := by
  intro entry hentry
  refine ⟨run_fieldNames _ (settings.fieldNames_words entry hentry), ?_⟩
  simp only [words, List.mem_append, List.mem_singleton, List.mem_map, Option.mem_toList] at hentry
  rcases hentry with (rfl | ⟨limit, hlimit, rfl⟩) | rfl
  · exact fits_natCast h.maxDepth
  · exact fits_natCast (h.maxLength limit hlimit)
  · trivial

theorem Below.toToml?_eq (h : settings.Below tomlBound) :
    settings.toToml? = some (String.join settings.lines) := by
  have hlength : settings.maxLength.all (· < tomlBound) = true := by
    rcases hlimit : settings.maxLength with _ | limit
    · rfl
    · simpa using h.maxLength limit hlimit
  rw [toToml?, hlength, if_pos]
  simpa using h.maxDepth

theorem load_toUTF8 {text : String} (h : ofToml text = some settings) :
    load (some text.toUTF8) = .ok settings := by
  have hdecoded : String.fromUTF8? text.toUTF8 = some text := by
    rw [String.fromUTF8?, String.toUTF8_eq_toByteArray, dif_pos text.isValidUTF8]
    rfl
  rw [load, hdecoded]
  simp only [h]

theorem assigned_eq {β : Type} {document : Document}
    (h : ∀ name, document.entry? name = (entries.lookup name).map fun word => .value word.toToml)
    (name : String) (default : β) (read : Toml → Option β) :
    assigned document name default read =
      (entries.lookup name).elim (some default) fun word => read word.toToml := by
  rw [assigned, h]
  cases entries.lookup name <;> rfl

theorem maxDepth_words (settings : Settings) (default : Nat) :
    (settings.words.lookup "max_depth").elim (some default) (fun word => word.toToml.nat?) =
      some settings.maxDepth := by
  simp [words, Word.toToml, Toml.nat?]

theorem maxLength_words (settings : Settings) :
    (settings.words.lookup "max_input_len").elim (some none)
      (fun word => word.toToml.nat?.map some) = some settings.maxLength := by
  obtain ⟨maxDepth, _ | limit, suggestKeys⟩ := settings <;>
    simp [words, Word.toToml, Toml.nat?, List.lookup_cons]

theorem suggestKeys_words (settings : Settings) (default : Bool) :
    (settings.words.lookup "suggest_builtin_keys").elim (some default)
      (fun word => word.toToml.bool?) = some settings.suggestKeys := by
  obtain ⟨maxDepth, _ | limit, suggestKeys⟩ := settings <;>
    simp [words, Word.toToml, Toml.bool?, List.lookup_cons]

theorem ofToml_rewritten (h : settings.Below tomlBound)
    (hentries : Rewritten settings.words ({} : Settings).words IsAssignment entries) :
    ofToml (String.join (entries.map lineOf)) = some settings := by
  have hnodup := settings.nodup_words
  have hdefaults := ({} : Settings).nodup_words
  obtain ⟨document, hparse, hdocument⟩ :=
    Document.parse_lines (hentries.forall h.isAssignment fun _ => id)
      (hentries.nodup hnodup settings.fieldNames_words)
  have hdepth := hentries.read hnodup hdefaults (by decide)
    (settings.maxDepth_words _) (({} : Settings).maxDepth_words _)
  have hlength := hentries.read hnodup hdefaults (by decide)
    settings.maxLength_words ({} : Settings).maxLength_words
  have hsuggest := hentries.read hnodup hdefaults (by decide)
    (settings.suggestKeys_words _) (({} : Settings).suggestKeys_words _)
  rw [ofToml, hparse, Option.bind_some, ofDocument]
  simp only [assigned_eq hdocument, hdepth, hlength, hsuggest]
  rfl

end Toml

/-! ## JSON -/

section Json

variable {settings : Settings} {entries : List (String × Json)}

/-- The members of settings, the length limit among them even if it is not set. -/
def members (settings : Settings) : List (String × Json) :=
  [("max_depth", .integer settings.maxDepth),
    ("max_input_len", settings.maxLength.elim .null fun limit => .integer limit),
    ("suggest_builtin_keys", .bool settings.suggestKeys)]

theorem field_eq {β : Type} (name : String) (default : β) (read : Json → Option β) :
    field entries name default read = (entries.lookup name).elim (some default) read := by
  rw [field]
  cases entries.lookup name <;> rfl

theorem nodup_members (settings : Settings) : (settings.members.map Prod.fst).Nodup := by
  simp [members]

/-- Settings are written without the length limit if it is not set. -/
theorem exists_toJson (settings : Settings) : ∃ entries, settings.toJson = .object entries ∧
    Rewritten settings.members ({} : Settings).members (fun _ => True) entries := by
  obtain ⟨maxDepth, _ | limit, suggestKeys⟩ := settings
  · let depth : String × Json := ("max_depth", .integer maxDepth)
    let suggest : String × Json := ("suggest_builtin_keys", .bool suggestKeys)
    refine ⟨[depth, suggest], rfl, ?_⟩
    have hkept : [depth, suggest].Sublist [depth, ("max_input_len", .null), suggest] :=
      ((List.Sublist.refl _).cons _).cons_cons _
    have hperm : [depth, suggest].Perm ([depth, suggest] ++ []) := by simp
    refine .intro hkept ?_ (by simp) (by simp) hperm
    intro field hfield hnot
    obtain rfl : field = ("max_input_len", .null) := by
      simp only [members, List.mem_cons, List.not_mem_nil, or_false] at hfield hnot
      rcases hfield with h | h | h
      · exact absurd (.inl h) hnot
      · exact h
      · exact absurd (.inr h) hnot
    simp [members]
  · exact ⟨_, rfl, .refl⟩

theorem natBelow?_natCast {n bound : Nat} (h : n < bound) :
    Json.natBelow? bound (.integer n) = some n := by
  rw [Json.natBelow?, if_pos (by omega), Int.toNat_natCast]

theorem Below.maxDepth_members (h : settings.Below numberBound) (default : Nat) :
    (settings.members.lookup "max_depth").elim (some default) (·.natBelow? numberBound) =
      some settings.maxDepth := by
  rw [members, List.lookup_cons_self, Option.elim_some, natBelow?_natCast h.maxDepth]

theorem Below.maxLength_members (h : settings.Below numberBound) :
    (settings.members.lookup "max_input_len").elim (some none) maxLengthOfJson =
      some settings.maxLength := by
  rw [members, lookup_cons_of_ne (by decide), List.lookup_cons_self, Option.elim_some]
  rcases hlimit : settings.maxLength with _ | limit
  · rfl
  · rw [Option.elim_some, maxLengthOfJson, natBelow?_natCast (h.maxLength limit hlimit)]
    · rfl
    · nofun

theorem suggestKeys_members (settings : Settings) (default : Bool) :
    (settings.members.lookup "suggest_builtin_keys").elim (some default) (·.bool?) =
      some settings.suggestKeys := by
  rw [members, lookup_cons_of_ne (by decide), lookup_cons_of_ne (by decide), List.lookup_cons_self,
    Option.elim_some, Json.bool?]

theorem ofJson_rewritten (h : settings.Below numberBound)
    (hentries : Rewritten settings.members ({} : Settings).members (fun _ => True) entries) :
    ofJson (.object entries) = some settings := by
  have hnodup := settings.nodup_members
  have hdefaults := ({} : Settings).nodup_members
  have hbelow : ({} : Settings).Below numberBound := ⟨by decide, nofun⟩
  have hdepth := hentries.read hnodup hdefaults (by decide)
    (h.maxDepth_members _) (hbelow.maxDepth_members _)
  have hlength := hentries.read hnodup hdefaults (by decide)
    h.maxLength_members hbelow.maxLength_members
  have hsuggest := hentries.read hnodup hdefaults (by decide)
    (settings.suggestKeys_members _) (({} : Settings).suggestKeys_members _)
  rw [ofJson, ofFields]
  simp only [field_eq, hdepth, hlength, hsuggest]
  rfl

end Json

/-! ## Reading what was stored -/

/-- Settings are read from the document and from the value that are written for them, and still are
after both were rewritten. -/
theorem read_stored (settings : Settings) :
    (settings.Below tomlBound → ∃ text, settings.toToml? = some text ∧
      (ofToml text = some settings ∧ load (some text.toUTF8) = .ok settings) ∧
      ∀ entries, Rewritten settings.words ({} : Settings).words IsAssignment entries →
        ofToml (String.join (entries.map lineOf)) = some settings ∧
        load (some (String.join (entries.map lineOf)).toUTF8) = .ok settings) ∧
    (settings.Below numberBound → ofJson settings.toJson = some settings ∧
      ∀ entries, Rewritten settings.members ({} : Settings).members (fun _ => True) entries →
        ofJson (.object entries) = some settings) := by
  refine ⟨fun hbelow => ?_, fun hbelow => ?_⟩
  · refine ⟨_, hbelow.toToml?_eq, ?_, fun entries hentries => ?_⟩
    · have htext := ofToml_rewritten hbelow .refl
      rw [← lines_eq] at htext
      exact ⟨htext, load_toUTF8 htext⟩
    · have htext := ofToml_rewritten hbelow hentries
      exact ⟨htext, load_toUTF8 htext⟩
  · obtain ⟨entries, hjson, hentries⟩ := exists_toJson settings
    refine ⟨?_, fun entries hentries => ofJson_rewritten hbelow hentries⟩
    rw [hjson]
    exact ofJson_rewritten hbelow hentries

/-- The largest numbers. In the document the report of misspelled keys is left out, and so is the
length limit in the value; both have other entries. -/
theorem read_stored_largest :
    let settings : Settings := ⟨9223372036854775807, some 0, true⟩
    let text := "_x-1 = -5\nmax_input_len = 0\ntrue = false\nmax_depth = 9223372036854775807\n"
    let settings' : Settings := ⟨18446744073709551615, none, false⟩
    let value := Json.object [("suggest_builtin_keys", .bool false), ("note", .array []),
      ("max_depth", .integer 18446744073709551615), ("max_input_len", .null)]
    (settings.Below tomlBound ∧ ofToml text = some settings ∧
        load (some text.toUTF8) = .ok settings) ∧
      settings'.Below numberBound ∧ ofJson value = some settings' := by
  intro settings text settings' value
  have hbelow : settings.Below tomlBound := ⟨by decide, by rintro _ ⟨⟩; decide⟩
  have hbelow' : settings'.Below numberBound := ⟨by decide, nofun⟩
  have hentries : Rewritten settings.words ({} : Settings).words IsAssignment
      [("_x-1", .integer (-5)), ("max_input_len", .integer 0), ("true", .boolean false),
        ("max_depth", .integer 9223372036854775807)] := by
    have hkept : [("max_depth", Word.integer 9223372036854775807),
        ("max_input_len", .integer 0)].Sublist settings.words := by decide
    have hextra : ∀ entry ∈ [("_x-1", Word.integer (-5)), ("true", .boolean false)],
        entry.1 ∉ fieldNames ∧ IsAssignment entry := by
      decide
    exact .intro hkept (by decide) hextra (by decide) (by decide)
  have hentries' : Rewritten settings'.members ({} : Settings).members (fun _ => True)
      ([("suggest_builtin_keys", .bool false), ("note", .array [])] ++
        [("max_depth", .integer 18446744073709551615), ("max_input_len", .null)]) :=
    .intro (List.Sublist.refl settings'.members) (fun _ hmem hnot => absurd hmem hnot)
      (by simp [fieldNames]) (by simp) List.perm_append_comm
  obtain ⟨written, -, -, hread⟩ := (read_stored settings).1 hbelow
  obtain ⟨-, hread'⟩ := (read_stored settings').2 hbelow'
  have htext := hread _ hentries
  have heq : String.join (List.map lineOf [("_x-1", .integer (-5)), ("max_input_len", .integer 0),
      ("true", .boolean false), ("max_depth", .integer 9223372036854775807)]) = text := by
    decide +kernel
  rw [heq] at htext
  exact ⟨⟨hbelow, htext⟩, hbelow', hread' _ hentries'⟩

end FilterQuery.Settings
