import LiveConfig.Proofs.Distribution.Search
import LiveConfig.Proofs.Binary64.Quotient

/-! Which variant a position in the unit interval selects.

The variants divide the unit interval in the order in which they stand, and the share of a variant
ends at the quotient of the weight up to it and the total weight, that end included. The last share
ends at one, so every position below one is in a share and nothing falls back to the first variant.
A variant without weight has no share of its own, with one exception: at the first place its share
is the single position zero. -/
namespace LiveConfig

variable {position : Binary64} {weights : List Nat}

/-- The hash of an input lies in the unit interval. -/
theorem Murmur3.inUnit_fraction (bytes : List UInt8) : (Murmur3.fraction bytes).InUnit :=
  Binary64.inUnit_word (Murmur3.hash bytes).toNat_lt

section Reaching

variable {running total : Nat}

theorem reaches_iff (number : position.isNaN = false)
    (quotient : (Binary64.ofNat running / Binary64.ofNat total).isNaN = false) :
    reaches position running total = true ↔
      position.units ≤ (Binary64.ofNat running / Binary64.ofNat total).units := by
  unfold reaches
  rw [Binary64.compare?_of_numbers quotient number, Option.any_some]
  exact Int.isGE_compare

/-- The total weight reaches every position. -/
theorem reaches_total (within : position.InUnit) (positive : 0 < total) (fits : total < 2 ^ 64) :
    reaches position total total = true := by
  have one := Binary64.ofNat_div_self positive fits
  have below := within.below
  have number : (Binary64.ofFields false Binary64.oneFields).isNaN = false :=
    Binary64.isNaN_ofFields (by decide)
  rw [reaches_iff within.number (one ▸ number), one, Binary64.units_one]
  omega

/-- No weight reaches the position zero only. -/
theorem reaches_zero (within : position.InUnit) (positive : 0 < total) (fits : total < 2 ^ 64) :
    reaches position 0 total = true ↔ position.units = 0 := by
  have zero := Binary64.zero_div_ofNat positive fits
  have nonneg := within.nonneg
  have number : (Binary64.ofFields false 0).isNaN = false := Binary64.isNaN_ofFields (by decide)
  rw [reaches_iff within.number (zero ▸ number), zero, Binary64.units_zero]
  omega

end Reaching

section Weights

theorem totalWeight_append (first second : List Nat) :
    totalWeight (first ++ second) = totalWeight first + totalWeight second := by
  induction first with
  | nil => simp [totalWeight]
  | cons w ws ih =>
    simp only [List.cons_append, totalWeight, ih]
    omega

theorem totalWeight_take_succ {i : Nat} {w : Nat} (found : weights[i]? = some w) :
    totalWeight (weights.take (i + 1)) = totalWeight (weights.take i) + w := by
  rw [List.take_add_one, found, totalWeight_append]
  rfl

end Weights

/-- The place of a position among the shares: the first weight at which the cumulative weight
reaches it. -/
structure FirstReached (position : Binary64) (weights : List Nat) (i : Nat) : Prop where
  inside : i < weights.length
  reached : reaches position (totalWeight (weights.take (i + 1))) (totalWeight weights) = true
  earlier : ∀ k < i,
    reaches position (totalWeight (weights.take (k + 1))) (totalWeight weights) = false

/-- Every position in the unit interval has a place, which is where it is sorted. -/
theorem bucket?_firstReached (within : position.InUnit) (positive : 0 < totalWeight weights)
    (fits : totalWeight weights < 2 ^ 64) :
    ∃ i, bucket? weights position = some i ∧ FirstReached position weights i := by
  obtain ⟨i, _, selected, first⟩ := bucketBy?_firstAt positive (reaches_total within positive fits)
  rw [← bucket?_eq_bucketBy?] at selected
  exact ⟨i, selected, first.inside, first.accepted, first.earlier⟩

/-- Where a position is sorted stands no weightless variant, unless it is zero and the first one has
no weight. -/
theorem FirstReached.weightless_iff {i w : Nat} (first : FirstReached position weights i)
    (found : weights[i]? = some w) (within : position.InUnit) (positive : 0 < totalWeight weights)
    (fits : totalWeight weights < 2 ^ 64) :
    w = 0 ↔ position.units = 0 ∧ weights.head? = some 0 := by
  have origin := reaches_zero within positive fits
  have reached := first.reached
  constructor
  · intro weightless
    rw [totalWeight_take_succ found, weightless, Nat.add_zero] at reached
    cases i with
    | zero =>
      rw [List.head?_eq_getElem?, found, weightless]
      exact ⟨origin.mp reached, rfl⟩
    | succ k =>
      -- without weight it reaches no further than the variant before it
      have before := first.earlier k (Nat.lt_succ_self k)
      rw [reached] at before
      cases before
  · rintro ⟨zero, head⟩
    rw [List.head?_eq_getElem?] at head
    cases i with
    | zero =>
      rw [head] at found
      exact (Option.some.inj found).symm
    | succ k =>
      have before := first.earlier 0 (Nat.succ_pos k)
      rw [totalWeight_take_succ head, List.take_zero, totalWeight, origin.mpr zero] at before
      cases before

namespace Distribution

theorem getElem?_weights {d : WeightedValues} {i : Nat} {variant : Variant ConfigValue}
    (found : d.variants[i]? = some variant) : d.weights[i]? = some variant.weight.toNat := by
  unfold weights
  rw [List.getElem?_map, found]
  rfl

theorem inUnit_position {chance : Chance} (sharded : ∀ bytes, (chance.sharder bytes).InUnit)
    (drawn : chance.draw.InUnit) (d : WeightedValues) (key : String) (properties : Properties) :
    (d.position chance key properties).InUnit := by
  unfold position
  cases d.identity? properties with
  | none => exact drawn
  | some identity => exact sharded _

/-- A distribution of positive weight, however its position is found, gives one of its variants;
this one has no weight exactly if the position is zero and the first variant has none. -/
theorem select?_weightless_iff (d : WeightedValues) (chance : Chance) (key : String)
    (properties : Properties) (positive : 0 < totalWeight d.weights)
    (fits : totalWeight d.weights < 2 ^ 64) (sharded : ∀ bytes, (chance.sharder bytes).InUnit)
    (drawn : chance.draw.InUnit) :
    ∃ i variant, d.select? chance key properties = some (variant.value, i) ∧
      d.variants[i]? = some variant ∧
      (variant.weight = 0 ↔
        (d.position chance key properties).units = 0 ∧ d.weights.head? = some 0) := by
  have within := inUnit_position sharded drawn d key properties
  obtain ⟨i, selected, first⟩ := bucket?_firstReached within positive fits
  have inside : i < d.variants.length := d.length_weights ▸ first.inside
  have found : d.variants[i]? = some d.variants[i] := List.getElem?_eq_getElem inside
  have weightless := first.weightless_iff (getElem?_weights found) within positive fits
  refine ⟨i, d.variants[i], ?_, found, ?_⟩
  · unfold select? at?
    simp only [selected, found, Option.bind_eq_bind, Option.bind_some]
  · rw [← weightless, ← UInt32.toNat_inj]
    rfl

/-- Two texts of which the first has no weight, divided by the key of the user. -/
def offOrOn : WeightedValues :=
  ⟨[⟨0, (Value.string "off").plain⟩, ⟨10, (Value.string "on").plain⟩], some "user.key"⟩

def userKey (key : String) : Properties := .ofList [("user.key", (Value.string key).plain)]

/-- A user whose hash is not zero. -/
theorem select?_offOrOn_on : ∃ i variant,
    offOrOn.select? (.murmur3 (.zero false)) "flag" (userKey "u1") = some (variant.value, i) ∧
      offOrOn.variants[i]? = some variant ∧ variant.weight ≠ 0 := by
  obtain ⟨i, variant, selected, found, weightless⟩ := select?_weightless_iff offOrOn
    (.murmur3 (.zero false)) "flag" (userKey "u1") (by decide) (by decide)
    Murmur3.inUnit_fraction ⟨by decide, by decide, by decide⟩
  refine ⟨i, variant, selected, found, ?_⟩
  intro none
  have zero := (weightless.mp none).1
  revert zero
  decide +kernel

/-- A user whose hash is zero gets the text that has no weight. -/
theorem select?_offOrOn_off : 0 < totalWeight offOrOn.weights ∧
    (∀ bytes, ((Chance.murmur3 (.zero false)).sharder bytes).InUnit) ∧
    offOrOn.select? (.murmur3 (.zero false)) "flag" (userKey "001529201716") =
      some ((Value.string "off").plain, 0) ∧
    offOrOn.variants[0]? = some ⟨0, (Value.string "off").plain⟩ := by
  refine ⟨by decide, Murmur3.inUnit_fraction, ?_, rfl⟩
  have place : (offOrOn.select? (.murmur3 (.zero false)) "flag" (userKey "001529201716")).map
      Prod.snd = some 0 := by decide +kernel
  obtain ⟨⟨v, i⟩, selected, rfl⟩ := Option.map_eq_some_iff.mp place
  obtain ⟨variant, found, rfl⟩ := variant_of_at? selected
  cases found
  exact selected

end Distribution
end LiveConfig
