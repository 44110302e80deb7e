import FilterQuery.Proofs.Runs

/-!
# The grammar of filters

    text        =  blanks disjunction blanks
    disjunction =  conjunction (or conjunction)*
    conjunction =  operand (and operand)*
    operand     =  "(" blanks disjunction blanks ")"  |  key ":" value  |  sign name
    or          =  blanks "or" blanks
    and         =  blanks "and" blanks  |  blank+

A disjunction is a chain of `or`, whose members are conjunctions; a conjunction is a chain of `and`,
whose members are operands. Chains group to the left.

The grammar has no tokens, so what a part may be depends on what follows it. Every relation here
holds between a text and the rest of the text behind the part: `Derives part n filter text rest`
says that `text` starts with a `part` that is written for `filter`, that its groups nest `n` deep,
and that `rest` follows it.

* `ValueAt`: values. `Joint`: what joins two members of a chain. `Derives`: the parts.
* `Denotes n filter text`: the whole text is written for `filter`, with groups `n` deep.
-/

namespace FilterQuery

open Text

/-- A value at the start of a text: any text without a quote between quotes, or a run of value
characters that no further one follows. -/
inductive ValueAt : String → List Char → List Char → Prop
  | quoted {body rest : List Char} : quoteMark ∉ body →
      ValueAt (String.ofList body) (quoteMark :: (body ++ quoteMark :: rest)) rest
  | bare {run rest : List Char} : Run isValueChar run → Stops isValueChar rest →
      ValueAt (String.ofList run) (run ++ rest) rest

/-- What joins two members of a chain: the word of the connective, which must not go on, with blanks
around it; for `and` blanks alone will do. -/
inductive Joint : Connective → List Char → List Char → Prop
  | word {connective : Connective} {before behind rest : List Char} : Blanks before →
      Blanks behind → continuesWord (behind ++ rest) = false →
      Joint connective (before ++ (connective.word.toList ++ (behind ++ rest))) rest
  | blanks {between rest : List Char} : Blanks between → between ≠ [] →
      Joint .and (between ++ rest) rest

/-- The parts of a filter. -/
inductive Part where
  /-- A group, an attribute pair or a tag. -/
  | operand
  /-- Members joined by the connective. -/
  | chain (connective : Connective)
  deriving DecidableEq, Repr

/-- The members of the chains of a connective: `and` joins operands, `or` joins chains of `and`. -/
def Connective.member : Connective → Part
  | .and => .operand
  | .or => .chain .and

/-- A part at the start of a text, the filter that it is written for and how deep its groups
nest. -/
inductive Derives : Part → Nat → Filter → List Char → List Char → Prop
  | pair {name text rest : List Char} {value : String} : Run isKeyChar name →
      ValueAt value text rest →
      Derives .operand 0 (.ofPair (String.ofList name) value) (name ++ ':' :: text) rest
  | tag {polarity : Polarity} {name rest : List Char} : Run isTagChar name →
      Stops isTagChar rest →
      Derives .operand 0 (.tag polarity (String.ofList name)) (polarity.sign :: (name ++ rest)) rest
  | group {n : Nat} {filter : Filter} {before text behind rest : List Char} : Blanks before →
      Derives (.chain .or) n filter text (behind ++ ')' :: rest) → Blanks behind →
      Derives .operand (n + 1) filter ('(' :: (before ++ text)) rest
  | single {connective : Connective} {n : Nat} {filter : Filter} {text rest : List Char} :
      Derives connective.member n filter text rest →
      Derives (.chain connective) n filter text rest
  | joined {connective : Connective} {m n : Nat} {left right : Filter}
      {text middle middle' rest : List Char} : Derives (.chain connective) m left text middle →
      Joint connective middle middle' → Derives connective.member n right middle' rest →
      Derives (.chain connective) (max m n) (.binary left connective right) text rest

/-- The whole text is written for the filter, and its groups nest `n` deep. -/
inductive Denotes (n : Nat) (filter : Filter) : List Char → Prop
  | intro {before text behind : List Char} : Blanks before →
      Derives (.chain .or) n filter text behind → Blanks behind → Denotes n filter (before ++ text)

/-- A text with a rest that no word goes on in. -/
theorem continuesWord_eq_false_iff {text : List Char} :
    continuesWord text = false ↔ Stops (fun c => isAlphanumeric c || c == ':') text := by
  cases text <;> simp [continuesWord]

end FilterQuery
