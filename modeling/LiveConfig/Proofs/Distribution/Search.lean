import LiveConfig.Proofs.Distribution

/-! The search for the first cumulative weight that is accepted.

A position is one way to accept a cumulative weight: by reaching it. Whatever the way, what the
search finds is the first place at which the weight up to it is accepted, and it finds a place if
the total weight is accepted. If more is accepted the place does not get later. -/
namespace LiveConfig

/-- Index, from `index` on, of the first weight at which the cumulative weight is accepted. -/
def firstAccepted? (accepts : Nat → Bool) (running index : Nat) : List Nat → Option Nat
  | [] => none
  | w :: ws =>
    if accepts (running + w) then some index
    else firstAccepted? accepts (running + w) (index + 1) ws

/-- The index selected among variants of the given weights, where cumulative weights of a total are
accepted. -/
def bucketBy? (accepts : Nat → Nat → Bool) (weights : List Nat) : Option Nat :=
  if weights.isEmpty then none
  else if totalWeight weights = 0 then some 0
  else some ((firstAccepted? (accepts · (totalWeight weights)) 0 0 weights).getD 0)

/-- The place of a selection: the first at which the cumulative weight is accepted. -/
structure FirstAt (accepts : Nat → Bool) (weights : List Nat) (i : Nat) : Prop where
  inside : i < weights.length
  accepted : accepts (totalWeight (weights.take (i + 1))) = true
  earlier : ∀ k < i, accepts (totalWeight (weights.take (k + 1))) = false

section Position

variable {position : Binary64} {weights : List Nat}

theorem firstReaching?_eq_firstAccepted? (position : Binary64) (total running index : Nat)
    (weights : List Nat) : firstReaching? position total running index weights =
      firstAccepted? (reaches position · total) running index weights := by
  induction weights generalizing running index with
  | nil => rfl
  | cons w ws ih =>
    simp only [firstReaching?, firstAccepted?, ih]

theorem bucket?_eq_bucketBy? (weights : List Nat) (position : Binary64) :
    bucket? weights position = bucketBy? (reaches position) weights := by
  simp only [bucket?, bucketBy?, firstReaching?_eq_firstAccepted?]

end Position

section Search

variable {accepts accepts' : Nat → Bool} {weights weights' : List Nat} {running index i i' j : Nat}

theorem firstAccepted?_of_eq_some
    (found : firstAccepted? accepts running index weights = some j) :
    ∃ i, j = index + i ∧ i < weights.length ∧
      accepts (running + totalWeight (weights.take (i + 1))) = true ∧
      ∀ k < i, accepts (running + totalWeight (weights.take (k + 1))) = false := by
  induction weights generalizing running index with
  | nil => cases found
  | cons w ws ih =>
    simp only [firstAccepted?] at found
    split at found
    next accepted =>
      cases found
      refine ⟨0, rfl, Nat.succ_pos _, accepted, ?_⟩
      intro k before
      cases before
    next refused =>
      obtain ⟨i, place, inside, accepted, earlier⟩ := ih found
      refine ⟨i + 1, by omega, Nat.succ_lt_succ inside, ?_, ?_⟩
      · rw [List.take_succ_cons, totalWeight, ← Nat.add_assoc]
        exact accepted
      · intro k before
        rw [List.take_succ_cons, totalWeight, ← Nat.add_assoc]
        cases k with
        | zero => exact Bool.eq_false_iff.mpr refused
        | succ k => exact earlier k (Nat.lt_of_succ_lt_succ before)

/-- There is a place if the sum of all weights is accepted. -/
theorem exists_firstAccepted? (filled : weights ≠ [])
    (accepted : accepts (running + totalWeight weights) = true) :
    ∃ j, firstAccepted? accepts running index weights = some j := by
  induction weights generalizing running index with
  | nil => exact absurd rfl filled
  | cons w ws ih =>
    simp only [firstAccepted?]
    split
    · exact ⟨index, rfl⟩
    next refused =>
      rw [totalWeight, ← Nat.add_assoc] at accepted
      have rest : ws ≠ [] := by
        intro empty
        rw [empty] at accepted
        exact refused accepted
      exact ih rest accepted

/-- Where the total weight is positive and accepted, the search finds the place that is selected. -/
theorem bucketBy?_firstAt {accepts : Nat → Nat → Bool} (positive : 0 < totalWeight weights)
    (whole : accepts (totalWeight weights) (totalWeight weights) = true) :
    ∃ i, firstAccepted? (accepts · (totalWeight weights)) 0 0 weights = some i ∧
      bucketBy? accepts weights = some i ∧ FirstAt (accepts · (totalWeight weights)) weights i := by
  have filled : weights ≠ [] := by
    intro empty
    rw [empty] at positive
    cases positive
  obtain ⟨j, found⟩ :
      ∃ j, firstAccepted? (accepts · (totalWeight weights)) 0 0 weights = some j :=
    exists_firstAccepted? filled (by rwa [Nat.zero_add])
  obtain ⟨i, place, inside, accepted, earlier⟩ := firstAccepted?_of_eq_some found
  rw [Nat.zero_add] at place accepted
  simp only [Nat.zero_add] at earlier
  subst place
  refine ⟨j, found, ?_, inside, accepted, earlier⟩
  simp only [bucketBy?]
  rw [List.isEmpty_eq_false_iff.mpr filled, if_neg Bool.false_ne_true,
    if_neg (Nat.ne_of_gt positive), found, Option.getD_some]

namespace FirstAt

/-- A place is no later than any at which the cumulative weight is accepted. -/
theorem le_of_accepted (first : FirstAt accepts weights i)
    (accepted : accepts (totalWeight (weights.take (j + 1))) = true) : i ≤ j := by
  rw [← Nat.not_lt]
  intro before
  rw [first.earlier j before] at accepted
  cases accepted

/-- If what is accepted at one place is accepted there by other means and of other weights too,
then the other place is no later. -/
theorem le (first : FirstAt accepts weights i) (first' : FirstAt accepts' weights' i')
    (more : accepts (totalWeight (weights.take (i + 1))) = true →
      accepts' (totalWeight (weights'.take (i + 1))) = true) : i' ≤ i :=
  first'.le_of_accepted (more first.accepted)

end FirstAt

end Search
end LiveConfig
