import LiveConfig.Context.Basic
import LiveConfig.Proofs.Binary64.Equality
import LiveConfig.Proofs.Distribution
import LiveConfig.Proofs.Value.Equality

/-! When a caller stays with a variant.

A distribution that is hashed by a property selects by the text of its value. Equal values have one
text, so callers who hold equal values get the same variant, whatever else they hold and whatever is
drawn. There are two exceptions. A value that is no scalar has no text, and the variant is drawn as
if the property were absent. And the two zeros are equal, but their texts have different signs. In
both cases the variants differ for some sharder or draws, unless all positions select the same
one. -/
namespace LiveConfig

/-- The zeros of both signs, which are equal and have different texts. -/
def Value.OppositeZeros (v v' : Value) : Prop :=
  ∃ b, v = .double (.zero b) ∧ v' = .double (.zero !b)

/-- Equal scalars are the same, or zeros of opposite signs. -/
theorem Value.eq_or_oppositeZeros {v v' : Value} (scalar : v.scalarText?.isSome = true)
    (equal : v.beq v' = true) : v = v' ∨ v.OppositeZeros v' := by
  rcases beq_cases equal with rfl | ⟨x, y, rfl, rfl, number⟩ | ⟨_, _, _, rfl, _⟩
  · exact .inl rfl
  · rcases Binary64.eq_or_zeros_of_beq number with rfl | ⟨b, rfl, rfl⟩
    · exact .inl rfl
    · exact .inr ⟨b, rfl, rfl⟩
  · cases scalar

/-- The texts of the zeros give different inputs to hash. -/
theorem Value.OppositeZeros.texts {v v' : Value} (zeros : v.OppositeZeros v') :
    ∃ t t', v.scalarText? = some t ∧ v'.scalarText? = some t' ∧
      t.toUTF8.toList ≠ t'.toUTF8.toList := by
  obtain ⟨b, rfl, rfl⟩ := zeros
  refine ⟨_, _, rfl, rfl, ?_⟩
  cases b with
  | false => decide +kernel
  | true => decide +kernel

namespace Distribution

variable {d : WeightedValues} {name key : String} {chance : Chance} {properties : Properties}

/-- The index of the variant at a position. -/
def indexAt (d : WeightedValues) (position : Binary64) : Option Nat :=
  (d.at? position).map Prod.snd

/-- The index of the selected variant. -/
def index? (d : WeightedValues) (chance : Chance) (key : String) (c : LookupContext) : Option Nat :=
  (d.select? chance key c.flattened).map Prod.snd

theorem index?_eq (c : LookupContext) :
    d.index? chance key c = d.indexAt (d.position chance key c.flattened) := rfl

/-- All positions of a kind select the same variant. -/
def Indivisible (d : WeightedValues) (P : Binary64 → Prop) : Prop :=
  ∀ x y, P x → P y → d.indexAt x = d.indexAt y

/-- Callers who hold the given values of a property get the same variant of every key, with any
sharder to positions of a kind and for any draws of this kind, whatever else they hold. -/
def Sticky (d : WeightedValues) (P : Binary64 → Prop) (name : String) (v v' : ConfigValue) : Prop :=
  ∀ (sharder : Sharder) (draw draw' : Binary64) (key : String) (c c' : LookupContext),
    (∀ bytes, P (sharder bytes)) → P draw → P draw' →
    c.get? name = some v → c'.get? name = some v' →
    d.index? ⟨sharder, draw⟩ key c = d.index? ⟨sharder, draw'⟩ key c'

section Position

variable {v : ConfigValue}

theorem identity?_of_hashed (hashed : d.hashBy = some name) (held : properties.get? name = some v) :
    d.identity? properties = v.value.scalarText? := by
  unfold identity?
  simp only [hashed, held, Option.bind_eq_bind, Option.bind_some]

theorem position_of_text (hashed : d.hashBy = some name) (held : properties.get? name = some v)
    {t : String} (text : v.value.scalarText? = some t) :
    d.position chance key properties = chance.sharder.place key t := by
  rw [position, identity?_of_hashed hashed held, text]

theorem position_of_no_text (hashed : d.hashBy = some name)
    (held : properties.get? name = some v) (none : v.value.scalarText? = none) :
    d.position chance key properties = chance.draw := by
  rw [position, identity?_of_hashed hashed held, none]

/-- A sharder that gives positions of a kind, and a draw of this kind, lead to one of this kind. -/
theorem position_mem {P : Binary64 → Prop} (sharded : ∀ bytes, P (chance.sharder bytes))
    (drawn : P chance.draw) (d : WeightedValues) (key : String) (properties : Properties) :
    P (d.position chance key properties) := by
  unfold position
  cases d.identity? properties with
  | none => exact drawn
  | some identity => exact sharded _

end Position

/-- A caller with one property. -/
def holding (name : String) (v : ConfigValue) : LookupContext :=
  ⟨none, .ofList [⟨"", .ofList [(name, v)]⟩]⟩

theorem get?_holding (name : String) (v : ConfigValue) : (holding name v).get? name = some v := by
  have flat : (holding name v).flattened = Table.empty.insert name v := rfl
  rw [LookupContext.get?, flat, Table.get?_insert, if_pos rfl]

variable {P : Binary64 → Prop} {v v' : ConfigValue}

theorem sticky_of_same (hashed : d.hashBy = some name) (scalar : v.value.scalarText?.isSome = true)
    (same : v.value = v'.value) : d.Sticky P name v v' := by
  intro sharder draw draw' key c c' _ _ _ held held'
  obtain ⟨t, text⟩ := Option.isSome_iff_exists.mp scalar
  rw [index?_eq, index?_eq, position_of_text hashed held text,
    position_of_text hashed held' (same ▸ text)]

theorem sticky_of_indivisible (whole : d.Indivisible P) : d.Sticky P name v v' := by
  intro sharder draw draw' key c c' sharded drawn drawn' _ _
  exact whole _ _ (position_mem sharded drawn d key _) (position_mem sharded drawn' d key _)

/-- Without a text the variant is the drawn one, so stickiness leaves no choice. -/
theorem indivisible_of_no_text (hashed : d.hashBy = some name) (none : v.value.scalarText? = none)
    (sticky : d.Sticky P name v v') : d.Indivisible P := by
  intro x y inside inside'
  have same := sticky (fun _ => y) x y "" (holding name v) (holding name v') (fun _ => inside')
    inside inside' (get?_holding name v) (get?_holding name v')
  rw [index?_eq, index?_eq, position_of_no_text hashed (get?_holding name v) none] at same
  refine same.trans (congrArg d.indexAt ?_)
  exact position_mem (P := (· = y)) (fun _ => rfl) rfl d "" _

/-- A sharder can tell different texts apart, so stickiness leaves no choice. -/
theorem indivisible_of_texts (hashed : d.hashBy = some name) {t t' : String}
    (text : v.value.scalarText? = some t) (text' : v'.value.scalarText? = some t')
    (apart : t.toUTF8.toList ≠ t'.toUTF8.toList) (sticky : d.Sticky P name v v') :
    d.Indivisible P := by
  intro x y inside inside'
  let sharder : Sharder := fun bytes =>
    if bytes = "".toUTF8.toList ++ t.toUTF8.toList then x else y
  have sharded (bytes : List UInt8) : P (sharder bytes) := by
    unfold sharder
    split
    · exact inside
    · exact inside'
  have same := sticky sharder x x "" (holding name v) (holding name v') sharded inside inside
    (get?_holding name v) (get?_holding name v')
  have first : sharder.place "" t = x := if_pos rfl
  have second : sharder.place "" t' = y :=
    if_neg fun same => apart (List.append_cancel_left same).symm
  rw [index?_eq, index?_eq, position_of_text hashed (get?_holding name v) text,
    position_of_text hashed (get?_holding name v') text'] at same
  exact first ▸ second ▸ same

/-- Callers who hold equal values of the property that a distribution is hashed by stay together
exactly if the values are scalars and no zeros of opposite signs, or there is nothing to choose. -/
theorem sticky_iff (P : Binary64 → Prop) (hashed : d.hashBy = some name)
    (equal : (v == v') = true) :
    d.Sticky P name v v' ↔
      (v.value.scalarText?.isSome = true ∧ ¬ v.value.OppositeZeros v'.value) ∨ d.Indivisible P := by
  constructor
  · intro sticky
    cases text : v.value.scalarText? with
    | none => exact .inr (indivisible_of_no_text hashed text sticky)
    | some t =>
      by_cases zeros : v.value.OppositeZeros v'.value
      · obtain ⟨t, t', text, text', apart⟩ := zeros.texts
        exact .inr (indivisible_of_texts hashed text text' apart sticky)
      · exact .inl ⟨rfl, zeros⟩
  · rintro (⟨scalar, apart⟩ | whole)
    · have values : v.value.beq v'.value = true := (Bool.and_eq_true_iff.mp equal).1
      rcases Value.eq_or_oppositeZeros scalar values with same | zeros
      · exact sticky_of_same hashed scalar same
      · exact (apart zeros).elim
    · exact sticky_of_indivisible whole

/-- Two equal shares, divided by the score of the user. -/
def halves : WeightedValues :=
  ⟨[⟨1, (Value.string "a").plain⟩, ⟨1, (Value.string "b").plain⟩], some "user.score"⟩

/-- A user keeps the variant when the plan, the namespace and the draw change. -/
theorem halves_kept :
    halves.index? (.murmur3 (.zero false)) "colour" (holding "user.score" (Value.int 7).plain) =
      halves.index? (.murmur3 (.infinity false)) "colour"
        ⟨some "app", .ofList [⟨"user", .ofList
          [("plan", (Value.string "free").plain), ("score", (Value.int 7).plain)]⟩]⟩ := by
  have sticky : halves.Sticky (fun _ => True) "user.score" (Value.int 7).plain
      (Value.int 7).plain :=
    (sticky_iff (fun _ => True) rfl rfl).mpr (.inl ⟨rfl, by rintro ⟨_, ⟨⟩, _⟩⟩)
  exact sticky _ _ _ "colour" _ _ (fun _ => trivial) trivial trivial (get?_holding _ _) rfl

/-- A list gets whatever is drawn, and the zeros get different variants. -/
theorem halves_not_kept :
    (∃ list : ConfigValue, (list == list) = true ∧
      halves.index? (.murmur3 (.zero false)) "colour" (holding "user.score" list) = some 0 ∧
      halves.index? (.murmur3 (.ofRatio false 9 10)) "colour" (holding "user.score" list) =
        some 1) ∧
    ((Value.double (.zero false)).plain == (Value.double (.zero true)).plain) = true ∧
    halves.index? (.murmur3 (.zero false)) "colour"
      (holding "user.score" (Value.double (.zero false)).plain) = some 0 ∧
    halves.index? (.murmur3 (.zero false)) "colour"
      (holding "user.score" (Value.double (.zero true)).plain) = some 1 := by
  refine ⟨⟨(Value.stringList ["u1"]).plain, by decide, ?_, ?_⟩, by decide, ?_, ?_⟩
  all_goals decide +kernel

end Distribution
end LiveConfig
