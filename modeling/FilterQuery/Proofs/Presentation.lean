import FilterQuery.Json.Filter
import FilterQuery.Proofs.Lookup

/-!
# The JSON values that stand for a filter

A filter is written as one JSON value, but many others stand for it: members may come in any order
and among others, nodes and keys may be arrays, and a name of a case may be the only member of an
object. Nothing stands for a filter any more once something is missing or misnamed, however deep.

* `Json.IsRecord`: the fields of a record, as an object or as an array.
* `Filter.Presented`: the values that present a filter. `Filter.ofJson_presented`: it is read from
  each of them.
* `Json.Damaged`: one member is spoiled, somewhere inside. `Damaged.exists_spoiled`: the members
  beside it are found as before, so that reading fails at the spoiled one
  (`Filter.ofJson_damaged_node`).
* `Filter.ofJson_toJson`: both for the value that is written for a filter.
-/

namespace FilterQuery

/-! ## Records -/

namespace Json

/-- The value holds the fields of a record: it is an object with the fields and any other members
in any order, or an array of what stands in the fields. -/
inductive IsRecord (fields : List (String × Json)) : Json → Prop
  | object {members extra : List (String × Json)} : members.Perm (fields ++ extra) →
      (∀ member ∈ extra, member.1 ∉ fields.map Prod.fst) → IsRecord fields (.object members)
  | array : IsRecord fields (.array (fields.map Prod.snd))

/-- The value is the name of a case without fields, alone or as the only member of an object. -/
inductive IsVariant (word : String) : Json → Prop
  | word : IsVariant word (.string word)
  | member : IsVariant word (.object [(word, .null)])

theorem isRecord_object (fields : List (String × Json)) : IsRecord fields (.object fields) := by
  have hperm : fields.Perm (fields ++ []) := by simp
  exact .object hperm nofun

/-- A field is found among the members of an object that holds the record. -/
theorem IsRecord.lookup {fields members : List (String × Json)}
    (h : IsRecord fields (.object members)) (hfields : (fields.map Prod.fst).Nodup) {name : String}
    (hname : name ∈ fields.map Prod.fst) : members.lookup name = fields.lookup name := by
  cases h with
  | object hperm hextra =>
    exact lookup_of_perm hperm hfields fun member hmember heq =>
      hextra member hmember (heq ▸ hname)

theorem IsVariant.variant? {word : String} {value : Json} (h : IsVariant word value)
    (place : Place) : value.variant? place = some word := by
  cases h with
  | word => rfl
  | member => cases place <;> rfl

end Json

/-! ## Presentations of filters -/

/-- The value presents the key. -/
def Key.Presented (key : Key) (value : Json) : Prop :=
  value.IsRecord [("kind", .string key.kindWord), ("name", .string key.name)]

/-- The stored name of a type of node. -/
def NodeType.word : NodeType → String
  | pair => "attribute_pair"
  | tag => "tag"
  | binary => "binary_filter"

/-- The value holds a node of the type, with the given fields. -/
def NodeType.Holds (type : NodeType) (fields : List (String × Json)) (value : Json) : Prop :=
  value.IsRecord (("type", .string type.word) :: fields)

/-- The value presents the filter. Each node and each key may be an object, with its members in any
order and with others among them, or an array; each connective and each polarity may be an object
with nothing in it. -/
def Filter.Presented : Filter → Json → Prop
  | .pair key text, value => ∃ keyValue, key.Presented keyValue ∧
      NodeType.pair.Holds [("key", keyValue), ("value", .string text)] value
  | .tag polarity name, value => ∃ polarityValue, polarityValue.IsVariant polarity.word ∧
      NodeType.tag.Holds [("modifier", polarityValue), ("value", .string name)] value
  | .binary left connective right, value => ∃ leftValue connectiveValue rightValue,
      left.Presented leftValue ∧ connectiveValue.IsVariant connective.word ∧
      right.Presented rightValue ∧ NodeType.binary.Holds
        [("left", leftValue), ("operator", connectiveValue), ("right", rightValue)] value

theorem Key.presented_toJson (key : Key) : key.Presented key.toJson :=
  Json.isRecord_object _

theorem Filter.presented_toJson (filter : Filter) : filter.Presented filter.toJson := by
  induction filter with
  | pair key text => exact ⟨key.toJson, key.presented_toJson, Json.isRecord_object _⟩
  | tag polarity name => exact ⟨polarity.toJson, .word, Json.isRecord_object _⟩
  | binary left connective right ihLeft ihRight =>
    exact ⟨left.toJson, connective.toJson, right.toJson, ihLeft, .word, ihRight,
      Json.isRecord_object _⟩

/-! ## What is presented is read -/

section Read

variable {place : Json.Place} {value : Json}

theorem Polarity.ofJson_variant {polarity : Polarity} (h : value.IsVariant polarity.word) :
    Polarity.ofJson place value = some polarity := by
  rw [Polarity.ofJson, h.variant?]
  cases polarity <;> rfl

theorem Connective.ofJson_variant {connective : Connective} (h : value.IsVariant connective.word) :
    Connective.ofJson place value = some connective := by
  rw [Connective.ofJson, h.variant?]
  cases connective <;> rfl

theorem Key.ofKindWord_kindWord (key : Key) : ofKindWord key.kindWord key.name = some key := by
  cases key <;> rfl

theorem Key.ofJson_presented {key : Key} (h : key.Presented value) :
    Key.ofJson place value = some key := by
  cases value with
  | object members =>
    have hlookup : ∀ name ∈ ["kind", "name"], members.lookup name =
        List.lookup name [("kind", .string key.kindWord), ("name", .string key.name)] :=
      fun _ hname => Json.IsRecord.lookup h (by simp) hname
    simp [Key.ofJson, hlookup, List.lookup_cons, Json.variant?, Json.string?, ofKindWord_kindWord]
  | array items =>
    cases h
    simp [Key.ofJson, Json.label?, Json.string?, ofKindWord_kindWord]
  | _ => cases h

theorem NodeType.ofJson_word (type : NodeType) :
    NodeType.ofJson place (.string type.word) = some type := by
  cases type <;> cases place <;> rfl

theorem Filter.lookup_ofMembers (members : List (String × Json)) (name : String) :
    (ofMembers members).lookup name = (members.lookup name).map (ofJson .nested) := by
  induction members with
  | nil => rfl
  | cons member members ih =>
    obtain ⟨name', value⟩ := member
    rw [ofMembers, List.lookup_cons, List.lookup_cons, ih]
    cases name == name' <;> rfl

theorem Filter.ofFields_congr {type : NodeType} {fields fields' : List (String × Json)}
    (h : ∀ name ∈ type.fieldNames, fields'.lookup name = fields.lookup name) :
    ofFields type fields' (ofMembers fields') = ofFields type fields (ofMembers fields) := by
  cases type <;> simp [NodeType.fieldNames] at h <;> simp [ofFields, lookup_ofMembers, h]

theorem NodeType.nodup_fieldNames (type : NodeType) : ("type" :: type.fieldNames).Nodup := by
  cases type <;> decide

/-- A node is read from its fields, however these are held. -/
theorem NodeType.Holds.ofJson_eq {type : NodeType} {fields : List (String × Json)}
    (h : type.Holds fields value) (hnames : fields.map Prod.fst = type.fieldNames) :
    Filter.ofJson place value = Filter.ofFields type fields (Filter.ofMembers fields) := by
  cases value with
  | object members =>
    have hfields : ((("type", Json.string type.word) :: fields).map Prod.fst).Nodup := by
      rw [List.map_cons, hnames]
      exact type.nodup_fieldNames
    have hlookup : ∀ name ∈ "type" :: type.fieldNames, members.lookup name =
        List.lookup name (("type", .string type.word) :: fields) :=
      fun name hname => Json.IsRecord.lookup h hfields (by rwa [List.map_cons, hnames])
    rw [Filter.ofJson, hlookup "type" (by simp), List.lookup_cons_self]
    dsimp only [Option.bind_eq_bind, Option.bind_some]
    rw [NodeType.ofJson_word]
    refine Filter.ofFields_congr fun name hname => ?_
    have hne : name ≠ "type" := by
      rintro rfl
      exact (List.nodup_cons.mp type.nodup_fieldNames).1 hname
    rw [hlookup name (List.mem_cons_of_mem _ hname), lookup_cons_of_ne hne]
  | array items =>
    cases h
    rw [List.map_cons, Filter.ofJson, NodeType.ofJson_word]
    have hlength : (fields.map Prod.snd).length = type.fieldNames.length := by
      rw [← hnames, List.length_map, List.length_map]
    dsimp only [Option.bind_eq_bind, Option.bind_some]
    -- The items with the names of the fields are the fields again.
    rw [if_pos hlength, ← hnames, Filter.ofItems_eq_map, List.map_map, List.zip_map',
      List.zip_map', Filter.ofMembers_eq_map]
    simp
  | _ => cases h

theorem Filter.ofJson_presented {filter : Filter} (h : filter.Presented value) :
    Filter.ofJson place value = some filter := by
  induction filter generalizing value place with
  | pair key text =>
    obtain ⟨keyValue, hkey, hnode⟩ := h
    rw [hnode.ofJson_eq rfl]
    simp [ofFields, List.lookup_cons, Key.ofJson_presented hkey, Json.string?]
  | tag polarity name =>
    obtain ⟨polarityValue, hpolarity, hnode⟩ := h
    rw [hnode.ofJson_eq rfl]
    simp [ofFields, List.lookup_cons, Polarity.ofJson_variant hpolarity, Json.string?]
  | binary left connective right ihLeft ihRight =>
    obtain ⟨leftValue, connectiveValue, rightValue, hleft, hconnective, hright, hnode⟩ := h
    rw [hnode.ofJson_eq rfl]
    simp [ofFields, ofMembers, List.lookup_cons, Connective.ofJson_variant hconnective,
      ihLeft hleft, ihRight hright]

end Read

/-! ## Damage -/

namespace Json

/-- The names that are declared for a member which holds one of several names. -/
def declaredNames? : String → Option (List String)
  | "type" => some NodeType.words
  | "kind" => some Key.kindWords
  | "operator" => some ([Connective.and, .or].map Connective.word)
  | "modifier" => some ([Polarity.includes, .excludes].map Polarity.word)
  | _ => none

mutual

/-- One of the members of an object, or of an object inside of it, is spoiled. -/
inductive Damaged : Json → Json → Prop
  | member (before after : List (String × Json)) {name : String} {value : Json}
      {found : Option Json} : Spoiled name value found →
      Damaged (.object (before ++ (name, value) :: after))
        (.object (before ++ (found.toList.map (name, ·) ++ after)))

/-- What is found of a member after it was removed, after its name of a case was replaced by one
that is not declared, or after what it holds was damaged. No member that is written for a filter
can be left out. -/
inductive Spoiled : String → Json → Option Json → Prop
  | removed {name : String} {value : Json} : Spoiled name value none
  | renamed {name word : String} {names : List String} {value : Json} :
      declaredNames? name = some names → word ∉ names → Spoiled name value (some (.string word))
  | inside {name : String} {value value' : Json} : Damaged value value' →
      Spoiled name value (some value')

end

/-- Damage to an object spoils one of its members, and leaves the others as they are. -/
theorem Damaged.exists_spoiled {members : List (String × Json)} {value : Json}
    (h : Damaged (.object members) value) (hnodup : (members.map Prod.fst).Nodup) :
    ∃ damaged name original, value = .object damaged ∧ (name, original) ∈ members ∧
      Spoiled name original (damaged.lookup name) ∧
      ∀ other ≠ name, damaged.lookup other = members.lookup other := by
  cases h with
  | @member before after name original found hspoiled =>
    have hfound : ∀ other, List.lookup other (found.toList.map (name, ·)) =
        if other = name then found else none := by
      intro other
      by_cases hother : other = name
      · cases found <;> simp [hother]
      · cases found <;> simp [lookup_cons_of_ne, hother]
    refine ⟨_, name, original, rfl, by simp, ?_, fun other hother => ?_⟩
    · rw [List.map_append, List.map_cons, List.nodup_middle, List.nodup_cons,
        ← List.map_append] at hnodup
      have hothers : List.lookup name (before ++ after) = none :=
        lookup_eq_none_of_ne fun member hmember heq =>
          hnodup.1 (List.mem_map.mpr ⟨member, hmember, heq⟩)
      rw [List.lookup_append, Option.or_eq_none_iff] at hothers
      rw [List.lookup_append, List.lookup_append, hfound, if_pos rfl, hothers.1, hothers.2,
        Option.none_or, Option.or_none]
      exact hspoiled
    · rw [List.lookup_append, List.lookup_append, hfound, if_neg hother, Option.none_or,
        List.lookup_append, lookup_cons_of_ne hother]

theorem not_damaged_string (text : String) (value : Json) : ¬Damaged (.string text) value :=
  nofun

end Json

/-- The value is not read in a node, where it stands in the field of this name or is the type. -/
def Filter.Unreadable (name : String) (value : Json) : Prop :=
  match name with
  | "type" => ∀ place, NodeType.ofJson place value = none
  | "key" => Key.ofJson .nested value = none
  | "modifier" => Polarity.ofJson .nested value = none
  | "operator" => Connective.ofJson .nested value = none
  | "left" | "right" => Filter.ofJson .nested value = none
  | "value" => value.string? = none
  | _ => False

section Damaged

variable {place : Json.Place} {value : Json} {word : String}

theorem NodeType.ofJson_undeclared (h : word ∉ words) (place : Json.Place) :
    NodeType.ofJson place (.string word) = none := by
  have hlabel : Json.label? words place (.string word) = some word := by cases place <;> rfl
  rw [NodeType.ofJson, hlabel]
  split <;> simp_all [words]

theorem Connective.ofJson_undeclared (h : word ∉ [Connective.and, .or].map Connective.word) :
    Connective.ofJson place (.string word) = none := by
  rw [Connective.ofJson, Json.variant?]
  split <;> simp_all [Connective.word]

theorem Polarity.ofJson_undeclared (h : word ∉ [Polarity.includes, .excludes].map Polarity.word) :
    Polarity.ofJson place (.string word) = none := by
  rw [Polarity.ofJson, Json.variant?]
  split <;> simp_all [Polarity.word]

theorem Key.ofKindWord_undeclared (h : word ∉ kindWords) (name : String) :
    ofKindWord word name = none := by
  unfold ofKindWord
  split <;> simp_all [kindWords]

theorem Key.ofJson_damaged {key : Key} (h : key.toJson.Damaged value) :
    Key.ofJson place value = none := by
  obtain ⟨damaged, name, original, rfl, hmem, hspoiled, hothers⟩ := h.exists_spoiled (by simp)
  rw [ofJson]
  rcases List.mem_pair.mp hmem with heq | heq
  · obtain ⟨rfl, rfl⟩ := Prod.mk.inj heq
    generalize damaged.lookup "kind" = found at hspoiled
    cases hspoiled with
    | removed => rfl
    | @renamed _ word _ _ hnames hword =>
      obtain rfl := Option.some.inj hnames
      simp [Json.variant?, ofKindWord_undeclared hword]
    | inside hinside => exact absurd hinside (Json.not_damaged_string _ _)
  · obtain ⟨rfl, rfl⟩ := Prod.mk.inj heq
    generalize damaged.lookup "name" = found at hspoiled
    cases hspoiled with
    | removed => simp
    | renamed hnames => cases hnames
    | inside hinside => exact absurd hinside (Json.not_damaged_string _ _)

theorem Filter.unreadable_renamed {name : String} {names : List String}
    (hnames : Json.declaredNames? name = some names) (hword : word ∉ names)
    (hkind : name ≠ "kind") : Unreadable name (.string word) := by
  unfold Json.declaredNames? at hnames
  split at hnames
  · cases hnames
    exact fun place => NodeType.ofJson_undeclared hword place
  · exact absurd rfl hkind
  · cases hnames
    exact Connective.ofJson_undeclared hword
  · cases hnames
    exact Polarity.ofJson_undeclared hword
  · cases hnames

/-- A node of which a field is missing or cannot be read is not read. -/
theorem Filter.ofFields_eq_none {type : NodeType} {fields : List (String × Json)} {name : String}
    (hname : name ∈ type.fieldNames)
    (h : ∀ value, fields.lookup name = some value → Unreadable name value) :
    ofFields type fields (ofMembers fields) = none := by
  rcases hfound : fields.lookup name with _ | value
  · cases type with
    | pair | tag => rcases List.mem_pair.mp hname with rfl | rfl <;> simp [ofFields, hfound]
    | binary =>
      rw [NodeType.fieldNames, List.mem_cons, List.mem_pair] at hname
      rcases hname with rfl | rfl | rfl <;> simp [ofFields, lookup_ofMembers, hfound]
  · have hnone := h value hfound
    cases type with
    | pair | tag =>
      rcases List.mem_pair.mp hname with rfl | rfl <;>
        simp only [Unreadable] at hnone <;> simp [ofFields, hfound, hnone]
    | binary =>
      rw [NodeType.fieldNames, List.mem_cons, List.mem_pair] at hname
      rcases hname with rfl | rfl | rfl <;>
        simp only [Unreadable] at hnone <;> simp [ofFields, lookup_ofMembers, hfound, hnone]

/-- A node is not read after damage, if no field can be read after damage to what it holds. -/
theorem Filter.ofJson_damaged_node {type : NodeType} {fields : List (String × Json)}
    (hnames : fields.map Prod.fst = type.fieldNames)
    (hfields : ∀ name original damaged, (name, original) ∈ fields → original.Damaged damaged →
      Unreadable name damaged)
    (h : (Json.object (("type", .string type.word) :: fields)).Damaged value) :
    ofJson place value = none := by
  have hnodup : ("type" :: fields.map Prod.fst).Nodup := hnames ▸ type.nodup_fieldNames
  have hkind : "kind" ∉ "type" :: type.fieldNames := by
    cases type <;> decide
  obtain ⟨damaged, name, original, rfl, hmem, hspoiled, hothers⟩ := h.exists_spoiled hnodup
  have hname : name ∈ (("type", Json.string type.word) :: fields).map Prod.fst :=
    List.mem_map_of_mem hmem
  rw [List.map_cons, hnames] at hname
  have hunreadable : ∀ found, damaged.lookup name = some found → Unreadable name found := by
    intro found hfound
    rw [hfound] at hspoiled
    cases hspoiled with
    | renamed hdeclared hword =>
      exact unreadable_renamed hdeclared hword fun heq => hkind (heq ▸ hname)
    | inside hinside =>
      rcases List.mem_cons.mp hmem with heq | hfield
      · obtain ⟨-, rfl⟩ := Prod.mk.inj heq
        exact absurd hinside (Json.not_damaged_string _ _)
      · exact hfields _ _ _ hfield hinside
  rw [ofJson]
  by_cases htype : name = "type"
  · subst htype
    rcases hfound : damaged.lookup "type" with _ | found
    · rfl
    · have hnone : NodeType.ofJson place found = none := hunreadable found hfound place
      simp [hnone]
  · rw [hothers "type" (Ne.symm htype), List.lookup_cons_self]
    dsimp only [Option.bind_eq_bind, Option.bind_some]
    rw [NodeType.ofJson_word]
    exact ofFields_eq_none ((List.mem_cons.mp hname).resolve_left htype) hunreadable

theorem Filter.ofJson_damaged {filter : Filter} (h : filter.toJson.Damaged value) :
    Filter.ofJson place value = none := by
  induction filter generalizing value place with
  | pair key text =>
    have hnames : [("key", key.toJson), ("value", .string text)].map Prod.fst =
        NodeType.pair.fieldNames := rfl
    refine ofJson_damaged_node hnames (fun name original damaged hmem hinside => ?_) h
    rcases List.mem_pair.mp hmem with heq | heq <;> cases heq
    · exact Key.ofJson_damaged hinside
    · exact absurd hinside (Json.not_damaged_string _ _)
  | tag polarity name =>
    have hnames : [("modifier", polarity.toJson), ("value", .string name)].map Prod.fst =
        NodeType.tag.fieldNames := rfl
    refine ofJson_damaged_node hnames (fun name original damaged hmem hinside => ?_) h
    rcases List.mem_pair.mp hmem with heq | heq <;> cases heq
    · exact absurd hinside (Json.not_damaged_string _ _)
    · exact absurd hinside (Json.not_damaged_string _ _)
  | binary left connective right ihLeft ihRight =>
    have hnames : [("left", left.toJson), ("operator", connective.toJson),
        ("right", right.toJson)].map Prod.fst = NodeType.binary.fieldNames := rfl
    refine ofJson_damaged_node hnames (fun name original damaged hmem hinside => ?_) h
    rw [List.mem_cons, List.mem_pair] at hmem
    rcases hmem with heq | heq | heq <;> cases heq
    · exact ihLeft hinside
    · exact absurd hinside (Json.not_damaged_string _ _)
    · exact ihRight hinside

end Damaged

/-! ## Reading what was written -/

/-- A filter is read from the value that is written for it, and from every other value that presents
it. From a value that was damaged, at any depth, nothing is read. -/
theorem Filter.ofJson_toJson (filter : Filter) (place : Json.Place) :
    Filter.ofJson place filter.toJson = some filter ∧
      (∀ value, filter.Presented value → Filter.ofJson place value = some filter) ∧
      ∀ value, filter.toJson.Damaged value → Filter.ofJson place value = none :=
  ⟨ofJson_presented filter.presented_toJson, fun _ => ofJson_presented, fun _ => ofJson_damaged⟩

/-- A key that keeps its class, in a node that is an array, as an array behind another member; and
a class that is not declared, two levels deep. -/
theorem Filter.ofJson_toJson_nested :
    let filter := Filter.both (.pair (.userDefined "due") "1") (.tag .excludes "x")
    let presented := Json.array [.string "binary_filter",
      .object [("value", .string "1"), ("note", .null), ("type", .string "attribute_pair"),
        ("key", .array [.string "user_defined", .string "due"])],
      .object [("and", .null)],
      .array [.string "tag", .object [("exclude", .null)], .string "x"]]
    let damaged := Json.object [("type", .string "binary_filter"),
      ("left", .object [("type", .string "attribute_pair"),
        ("key", .object [("kind", .string "UserDefined"), ("name", .string "due")]),
        ("value", .string "1")]),
      ("operator", .string "and"), ("right", (Filter.tag .excludes "x").toJson)]
    (filter.Presented presented ∧ Filter.ofJson .outermost presented = some filter) ∧
      filter.toJson.Damaged damaged ∧ Filter.ofJson .outermost damaged = none := by
  intro filter presented damaged
  have hleft : (Filter.pair (.userDefined "due") "1").Presented (.object
      ([("value", .string "1"), ("note", .null)] ++ [("type", .string "attribute_pair"),
        ("key", .array [.string "user_defined", .string "due"])])) :=
    ⟨_, .array, .object List.perm_append_comm (by simp)⟩
  have hpresented : filter.Presented presented :=
    ⟨_, _, _, hleft, .member, ⟨_, .member, .array⟩, .array⟩
  have hkind : Json.Spoiled "kind" (.string "user_defined") (some (.string "UserDefined")) :=
    .renamed rfl (by decide)
  have hkey := Json.Damaged.member [] [("name", .string "due")] hkind
  have hleft := Json.Damaged.member [("type", .string "attribute_pair")] [("value", .string "1")]
    (.inside hkey : Json.Spoiled "key" _ _)
  have hdamaged : filter.toJson.Damaged damaged :=
    Json.Damaged.member [("type", .string "binary_filter")] [("operator", .string "and"),
      ("right", (Filter.tag .excludes "x").toJson)] (.inside hleft : Json.Spoiled "left" _ _)
  obtain ⟨-, hread, hfails⟩ := Filter.ofJson_toJson filter .outermost
  exact ⟨⟨hpresented, hread presented hpresented⟩, hdamaged, hfails damaged hdamaged⟩

end FilterQuery
