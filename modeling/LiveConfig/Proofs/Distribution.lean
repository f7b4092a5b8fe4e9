import LiveConfig.Distribution

/-! What a position selects. Whatever the weights and the position, also one that is no number, a
distribution that has variants gives one of them, and its index lies within the distribution; only
an empty one gives nothing. -/
namespace LiveConfig

variable {position : Binary64}

theorem firstReaching?_lt {total running index i : Nat} {weights : List Nat}
    (reached : firstReaching? position total running index weights = some i) :
    i < index + weights.length := by
  induction weights generalizing running index with
  | nil => cases reached
  | cons w ws ih =>
    unfold firstReaching? at reached
    rw [List.length_cons]
    split at reached
    · cases reached
      omega
    · have rest := ih reached
      omega

theorem bucket?_eq_none_iff {weights : List Nat} :
    bucket? weights position = none ↔ weights = [] := by
  unfold bucket?
  cases weights with
  | nil => simp
  | cons w ws =>
    simp only [List.isEmpty_cons, Bool.false_eq_true, if_false, reduceCtorEq, iff_false]
    split <;> exact Option.some_ne_none _

theorem bucket?_lt {weights : List Nat} {i : Nat} (selected : bucket? weights position = some i) :
    i < weights.length := by
  have filled : weights ≠ [] := by
    intro empty
    rw [bucket?_eq_none_iff.mpr empty] at selected
    cases selected
  have positive := List.length_pos_iff.mpr filled
  unfold bucket? at selected
  rw [List.isEmpty_eq_false_iff.mpr filled, if_neg Bool.false_ne_true] at selected
  split at selected
  · cases selected
    exact positive
  · cases selected
    cases reached : firstReaching? position (totalWeight weights) 0 0 weights with
    | none => exact positive
    | some j =>
      have bound := firstReaching?_lt reached
      simp only [Option.getD_some]
      omega

namespace Distribution

variable {d : WeightedValues}

theorem length_weights (d : WeightedValues) : d.weights.length = d.variants.length :=
  List.length_map _

theorem at?_eq_none_iff : d.at? position = none ↔ d.variants = [] := by
  unfold at?
  cases selected : bucket? d.weights position with
  | none =>
    have empty := bucket?_eq_none_iff.mp selected
    simp only [weights, List.map_eq_nil_iff] at empty
    simp [empty]
  | some i =>
    have inside : i < d.variants.length := d.length_weights ▸ bucket?_lt selected
    have filled : d.variants ≠ [] := List.ne_nil_of_length_pos (Nat.zero_lt_of_lt inside)
    simp [List.getElem?_eq_getElem inside, filled]

/-- What is selected is the variant at its index. -/
theorem variant_of_at? {v : ConfigValue} {i : Nat} (selected : d.at? position = some (v, i)) :
    ∃ variant, d.variants[i]? = some variant ∧ v = variant.value := by
  simp only [at?, Option.bind_eq_bind, Option.bind_eq_some_iff, Option.some.injEq,
    Prod.mk.injEq] at selected
  obtain ⟨j, _, variant, found, value, rfl⟩ := selected
  exact ⟨variant, found, value.symm⟩

/-- Callers who hold the same under the name that is hashed by have the same identity. -/
theorem identity?_congr {properties properties' : Properties}
    (same : ∀ name, d.hashBy = some name → properties.get? name = properties'.get? name) :
    d.identity? properties = d.identity? properties' := by
  unfold identity?
  cases hashed : d.hashBy with
  | none => rfl
  | some name => simp only [Option.bind_eq_bind, Option.bind_some, same name hashed]

end Distribution
end LiveConfig
