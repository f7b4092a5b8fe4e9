import Mathlib.Order.Interval.Finset.Nat
import Mathlib.Tactic.Linarith
import LiveConfig.Proofs.Distribution.Comparison

/-! How a distribution divides the hashes.

A hash of 32 bits selects the first variant whose share of the total weight ends at its position or
above. Whether quotients are exact or rounded, every hash is in a share, a larger hash selects no
earlier variant, and moving weight to earlier variants moves no hash to a later one. With exact
quotients, the number of hashes that select a variant is the variant's share of all hashes, up to
one hash. Up to a total of `2 ^ 21` the variants are the same with rounded quotients. -/
namespace LiveConfig

/-- The index that a hash selects, all quotients being exact. -/
def exactBucket? (weights : List Nat) (h : Nat) : Option Nat := bucketBy? (reachesExactly h) weights

/-- The sum of some weights in 64 bits. -/
def wordSum (weights : List UInt32) : UInt64 := weights.foldl (fun sum w => sum + w.toUInt64) 0

section Weights

theorem totalWeight_take_le (weights : List Nat) (i : Nat) :
    totalWeight (weights.take i) ≤ totalWeight weights := by
  have split := totalWeight_append (weights.take i) (weights.drop i)
  rw [List.take_append_drop] at split
  omega

theorem totalWeight_take_mono {i j : Nat} (le : i ≤ j) (weights : List Nat) :
    totalWeight (weights.take i) ≤ totalWeight (weights.take j) := by
  have nested : (weights.take j).take i = weights.take i := by
    rw [List.take_take, Nat.min_eq_left le]
  rw [← nested]
  exact totalWeight_take_le _ _

/-- Fewer than `2 ^ 32` weights of 32 bits have a total of 64 bits. -/
theorem totalWeight_words_lt {ws : List UInt32} (few : ws.length < 2 ^ 32) :
    totalWeight (ws.map UInt32.toNat) < 2 ^ 64 := by
  have most (ws : List UInt32) : totalWeight (ws.map UInt32.toNat) ≤ ws.length * (2 ^ 32 - 1) := by
    induction ws with
    | nil => exact Nat.zero_le _
    | cons w ws ih =>
      have word := w.toNat_lt
      rw [List.map_cons, totalWeight, List.length_cons, Nat.succ_mul]
      omega
  have bound := most ws
  omega

/-- A sum of 64 bits that does not overflow is the sum. -/
theorem toNat_wordSum {ws : List UInt32} (fits : totalWeight (ws.map UInt32.toNat) < 2 ^ 64) :
    (wordSum ws).toNat = totalWeight (ws.map UInt32.toNat) := by
  have onwards (sum : UInt64) (fits : sum.toNat + totalWeight (ws.map UInt32.toNat) < 2 ^ 64) :
      (ws.foldl (fun sum w => sum + w.toUInt64) sum).toNat =
        sum.toNat + totalWeight (ws.map UInt32.toNat) := by
    induction ws generalizing sum with
    | nil => rfl
    | cons w ws ih =>
      rw [List.map_cons, totalWeight] at fits ⊢
      have next : (sum + w.toUInt64).toNat = sum.toNat + w.toNat := by
        rw [UInt64.toNat_add, UInt32.toNat_toUInt64, Nat.mod_eq_of_lt (by omega)]
      rw [List.foldl_cons, ih (by omega) (sum + w.toUInt64) (by omega), next]
      omega
  have sum := onwards 0 (by simpa using fits)
  rwa [UInt64.toNat_zero, Nat.zero_add] at sum

end Weights

/-- How hashes divide among weights: every hash has a variant, a larger one has no earlier variant,
and where weight is moved to earlier variants no hash gets a later one. -/
structure Orderly (select : List Nat → Nat → Option Nat) (weights : List Nat) : Prop where
  assigned (h : Nat) : h < UInt32.size → ∃ i, select weights h = some i ∧ i < weights.length
  monotone (h h' i i' : Nat) : h ≤ h' → h' < UInt32.size → select weights h = some i →
    select weights h' = some i' → i ≤ i'
  moved (weights' : List Nat) (h i i' : Nat) : weights'.length = weights.length →
    totalWeight weights' = totalWeight weights →
    (∀ k, totalWeight (weights.take k) ≤ totalWeight (weights'.take k)) → h < UInt32.size →
    select weights h = some i → select weights' h = some i' → i' ≤ i

namespace Comparison

variable {accepts : Nat → Nat → Nat → Bool} {weights weights' : List Nat} {h h' i i' : Nat}

theorem firstAt (lawful : Comparison accepts) (positive : 0 < totalWeight weights)
    (fits : totalWeight weights < 2 ^ 64) (below : h < UInt32.size) :
    ∃ i, firstAccepted? (accepts h · (totalWeight weights)) 0 0 weights = some i ∧
      bucketBy? (accepts h) weights = some i ∧
      FirstAt (accepts h · (totalWeight weights)) weights i :=
  bucketBy?_firstAt positive (lawful.whole below positive fits)

/-- What is selected is found, and not what is fallen back to. -/
theorem firstAt_of_selected (lawful : Comparison accepts) (positive : 0 < totalWeight weights)
    (fits : totalWeight weights < 2 ^ 64) (below : h < UInt32.size)
    (selected : bucketBy? (accepts h) weights = some i) :
    FirstAt (accepts h · (totalWeight weights)) weights i := by
  obtain ⟨j, _, found, first⟩ := lawful.firstAt positive fits below
  rw [found] at selected
  cases selected
  exact first

theorem orderly (lawful : Comparison accepts) (positive : 0 < totalWeight weights)
    (fits : totalWeight weights < 2 ^ 64) :
    Orderly (fun weights h => bucketBy? (accepts h) weights) weights where
  assigned h below := by
    obtain ⟨i, _, selected, first⟩ := lawful.firstAt positive fits below
    exact ⟨i, selected, first.inside⟩
  monotone h h' i i' le below selected selected' := by
    have first := lawful.firstAt_of_selected positive fits (Nat.lt_of_le_of_lt le below) selected
    have first' := lawful.firstAt_of_selected positive fits below selected'
    exact first'.le first fun reached =>
      lawful.earlier le below (totalWeight_take_le _ _) positive fits reached
  moved weights' h i i' _ same more below selected selected' := by
    have first := lawful.firstAt_of_selected positive fits below selected
    have first' := lawful.firstAt_of_selected (same ▸ positive) (same ▸ fits) below selected'
    rw [same] at first'
    exact first.le first' fun reached =>
      lawful.further (more _) below (same ▸ totalWeight_take_le _ _) positive fits reached

end Comparison

/-- The hashes that select a variant, all quotients being exact. -/
def hashesOf (weights : List Nat) (i : Nat) : Finset Nat :=
  (Finset.range UInt32.size).filter fun h => exactBucket? weights h = some i

section Counting

variable {weights : List Nat} {h i w : Nat}

/-- The hashes of a variant lie after the share of the variant before it and up to the end of its
own share. -/
theorem exactBucket?_eq_some_iff (positive : 0 < totalWeight weights)
    (fits : totalWeight weights < 2 ^ 64) (below : h < UInt32.size) (inside : i < weights.length) :
    exactBucket? weights h = some i ↔
      h * totalWeight weights ≤ totalWeight (weights.take (i + 1)) * 2 ^ 32 ∧
        (0 < i → totalWeight (weights.take i) * 2 ^ 32 < h * totalWeight weights) := by
  constructor
  · intro selected
    have first := comparison_exactly.firstAt_of_selected positive fits below selected
    refine ⟨(reachesExactly_iff positive).mp first.accepted, fun later => ?_⟩
    have before := first.earlier (i - 1) (by omega)
    rw [Nat.sub_add_cancel later] at before
    rw [← Nat.not_le, ← reachesExactly_iff positive]
    exact Bool.eq_false_iff.mp before
  · rintro ⟨reached, unreached⟩
    obtain ⟨j, _, selected, first⟩ := comparison_exactly.firstAt positive fits below
    have le : j ≤ i := first.le_of_accepted ((reachesExactly_iff positive).mpr reached)
    rcases Nat.lt_or_eq_of_le le with before | rfl
    · have reached' := (reachesExactly_iff positive).mp first.accepted
      have sums : totalWeight (weights.take (j + 1)) ≤ totalWeight (weights.take i) :=
        totalWeight_take_mono before weights
      have := unreached (Nat.zero_lt_of_lt before)
      omega
    · exact selected

/-- So they are an interval. -/
theorem hashesOf_eq_Ico (positive : 0 < totalWeight weights) (fits : totalWeight weights < 2 ^ 64)
    (inside : i < weights.length) : hashesOf weights i = Finset.Ico
      (if i = 0 then 0 else totalWeight (weights.take i) * 2 ^ 32 / totalWeight weights + 1)
      (min (2 ^ 32)
        (totalWeight (weights.take (i + 1)) * 2 ^ 32 / totalWeight weights + 1)) := by
  have size : UInt32.size = 2 ^ 32 := by decide
  ext h
  rw [hashesOf, Finset.mem_filter, Finset.mem_range, Finset.mem_Ico, size]
  constructor
  · rintro ⟨below, selected⟩
    obtain ⟨reached, unreached⟩ :=
      (exactBucket?_eq_some_iff positive fits (size ▸ below) inside).mp selected
    have high := (Nat.le_div_iff_mul_le positive).mpr reached
    refine ⟨?_, by omega⟩
    split
    · exact Nat.zero_le h
    · exact (Nat.div_lt_iff_lt_mul positive).mpr (unreached (by omega))
  · rintro ⟨low, high⟩
    have below : h < 2 ^ 32 := by omega
    refine ⟨below, (exactBucket?_eq_some_iff positive fits (size ▸ below) inside).mpr ⟨?_, ?_⟩⟩
    · exact (Nat.le_div_iff_mul_le positive).mp (by omega)
    · intro later
      rw [if_neg (by omega)] at low
      exact (Nat.div_lt_iff_lt_mul positive).mp low

/-- How many numbers there are from just above the quotient `a` of a sum to the quotient `b` of a
larger one, both by the total: what the larger sum has more, divided by the total, up to one. -/
theorem length_bounds {total sum w a b lo : Nat} (within : sum + w ≤ total)
    (low : a * total ≤ sum * 2 ^ 32) (low' : sum * 2 ^ 32 < a * total + total)
    (high : b * total ≤ (sum + w) * 2 ^ 32) (high' : (sum + w) * 2 ^ 32 < b * total + total)
    (start : lo = a + 1 ∨ lo = 0 ∧ sum = 0) :
    (min (2 ^ 32) (b + 1) - lo) * total ≤ 2 ^ 32 * w + total ∧
      2 ^ 32 * w ≤ (min (2 ^ 32) (b + 1) - lo) * total + total := by
  rcases Nat.lt_or_ge b (2 ^ 32) with inside | whole
  · have most : min (2 ^ 32) (b + 1) = b + 1 := Nat.min_eq_right inside
    rcases start with rfl | ⟨rfl, rfl⟩
    · rw [most, Nat.add_sub_add_right, Nat.sub_mul]
      omega
    · rw [most, Nat.sub_zero, Nat.succ_mul]
      omega
  · -- the larger sum is the total
    have most : min (2 ^ 32) (b + 1) = 2 ^ 32 := Nat.min_eq_left (Nat.le_succ_of_le whole)
    have all : 2 ^ 32 * total ≤ b * total := Nat.mul_le_mul_right total whole
    rcases start with rfl | ⟨rfl, rfl⟩
    · rw [most, Nat.sub_mul, Nat.succ_mul]
      omega
    · rw [most, Nat.sub_zero]
      omega

/-- A variant is selected by its share of the hashes, up to one hash. -/
theorem card_hashesOf_bounds (positive : 0 < totalWeight weights)
    (fits : totalWeight weights < 2 ^ 64) (found : weights[i]? = some w) :
    (hashesOf weights i).card * totalWeight weights ≤ 2 ^ 32 * w + totalWeight weights ∧
      2 ^ 32 * w ≤ (hashesOf weights i).card * totalWeight weights + totalWeight weights := by
  have inside : i < weights.length := (List.getElem?_eq_some_iff.mp found).1
  have within := totalWeight_take_le weights (i + 1)
  rw [hashesOf_eq_Ico positive fits inside, Nat.card_Ico, totalWeight_take_succ found]
  rw [totalWeight_take_succ found] at within
  apply length_bounds (a := totalWeight (weights.take i) * 2 ^ 32 / totalWeight weights) within
  · exact Nat.div_mul_le_self _ _
  · exact Nat.lt_div_mul_add positive
  · exact Nat.div_mul_le_self _ _
  · exact Nat.lt_div_mul_add positive
  · split
    · rename_i first
      rw [first]
      exact .inr ⟨rfl, rfl⟩
    · exact .inl rfl

end Counting

/-- How weights divide the hashes. -/
structure Proportional (weights : List Nat) : Prop where
  /-- What a hash selects is found, and it is the first variant whose share reaches the hash. -/
  least (h : Nat) : h < UInt32.size → ∃ i,
    firstAccepted? (reachesExactly h · (totalWeight weights)) 0 0 weights = some i ∧
    exactBucket? weights h = some i ∧
    IsLeast {k | k < weights.length ∧
      h * totalWeight weights ≤ totalWeight (weights.take (k + 1)) * 2 ^ 32} i
  exactly : Orderly exactBucket? weights
  /-- A variant has its share of all hashes, up to one hash. -/
  share (i w : Nat) : weights[i]? = some w →
    |((hashesOf weights i).card : ℚ) - 2 ^ 32 * w / totalWeight weights| ≤ 1
  /-- With rounded quotients, too, what a hash selects is found. -/
  found (h : Nat) : h < UInt32.size → ∃ i,
    firstReaching? (hashPosition h) (totalWeight weights) 0 0 weights = some i ∧
    bucket? weights (hashPosition h) = some i
  rounded : Orderly (fun weights h => bucket? weights (hashPosition h)) weights
  /-- Up to a total of `2 ^ 21` rounding makes no difference. -/
  agree (h : Nat) : totalWeight weights ≤ 2 ^ 21 → h < UInt32.size →
    bucket? weights (hashPosition h) = exactBucket? weights h

section Proportional

variable {weights : List Nat}

theorem least_of_firstAt {h i : Nat} (positive : 0 < totalWeight weights)
    (first : FirstAt (reachesExactly h · (totalWeight weights)) weights i) :
    IsLeast {k | k < weights.length ∧
      h * totalWeight weights ≤ totalWeight (weights.take (k + 1)) * 2 ^ 32} i := by
  constructor
  · exact ⟨first.inside, (reachesExactly_iff positive).mp first.accepted⟩
  · rintro k ⟨_, reached⟩
    exact first.le_of_accepted ((reachesExactly_iff positive).mpr reached)

theorem abs_card_sub_share_le {i w : Nat} (positive : 0 < totalWeight weights)
    (fits : totalWeight weights < 2 ^ 64) (found : weights[i]? = some w) :
    |((hashesOf weights i).card : ℚ) - 2 ^ 32 * w / totalWeight weights| ≤ 1 := by
  have total : (0 : ℚ) < totalWeight weights := by exact_mod_cast positive
  obtain ⟨most, least⟩ := card_hashesOf_bounds positive fits found
  have most' : ((hashesOf weights i).card : ℚ) * totalWeight weights ≤
      2 ^ 32 * w + totalWeight weights := by exact_mod_cast most
  have least' : (2 : ℚ) ^ 32 * w ≤
      (hashesOf weights i).card * totalWeight weights + totalWeight weights := by
    exact_mod_cast least
  have above : ((hashesOf weights i).card : ℚ) ≤ 2 ^ 32 * w / totalWeight weights + 1 := by
    rw [div_add_one total.ne', le_div_iff₀ total]
    exact most'
  have below : (2 : ℚ) ^ 32 * w / totalWeight weights ≤ (hashesOf weights i).card + 1 := by
    rw [div_le_iff₀ total, add_mul, one_mul]
    exact least'
  rw [abs_sub_le_iff]
  constructor
  · linarith
  · linarith

/-- Each comparison that the search makes is decided alike. -/
theorem bucket?_eq_exactBucket? {h : Nat} (small : totalWeight weights ≤ 2 ^ 21)
    (positive : 0 < totalWeight weights) (below : h < UInt32.size) :
    bucket? weights (hashPosition h) = exactBucket? weights h := by
  have fits : totalWeight weights < 2 ^ 64 := Nat.lt_of_le_of_lt small (by decide)
  have same {k : Nat} := reaches_eq_reachesExactly below (totalWeight_take_le weights k) positive
    small
  obtain ⟨i, _, selected, first⟩ := comparison_exactly.firstAt positive fits below
  obtain ⟨j, _, selected', first'⟩ := comparison_rounded.firstAt positive fits below
  rw [bucket?_eq_bucketBy?, exactBucket?, selected, selected', Option.some_inj]
  apply Nat.le_antisymm
  · exact first.le first' fun reached => same.trans reached
  · exact first'.le first fun reached => same.symm.trans reached

theorem proportional (positive : 0 < totalWeight weights) (fits : totalWeight weights < 2 ^ 64) :
    Proportional weights where
  least h below := by
    obtain ⟨i, found, selected, first⟩ := comparison_exactly.firstAt positive fits below
    exact ⟨i, found, selected, least_of_firstAt positive first⟩
  exactly := comparison_exactly.orderly positive fits
  share i w found := abs_card_sub_share_le positive fits found
  found h below := by
    obtain ⟨i, found, selected, _⟩ := comparison_rounded.firstAt positive fits below
    rw [← firstReaching?_eq_firstAccepted?] at found
    rw [← bucket?_eq_bucketBy?] at selected
    exact ⟨i, found, selected⟩
  rounded := by
    simp only [bucket?_eq_bucketBy?]
    exact comparison_rounded.orderly positive fits
  agree h small below := bucket?_eq_exactBucket? small positive below

end Proportional

/-- Fewer than `2 ^ 32` weights of 32 bits, of which one is positive, are summed up without
overflow and divide the hashes in order and in proportion. -/
theorem Distribution.proportional_of_words (ws : List UInt32) (few : ws.length < 2 ^ 32)
    (positive : 0 < totalWeight (ws.map UInt32.toNat)) :
    (∀ k, (wordSum (ws.take k)).toNat = totalWeight ((ws.map UInt32.toNat).take k)) ∧
      Proportional (ws.map UInt32.toNat) := by
  have fits := totalWeight_words_lt few
  refine ⟨fun k => ?_, proportional positive fits⟩
  rw [← List.map_take]
  apply toNat_wordSum
  rw [List.map_take]
  exact Nat.lt_of_le_of_lt (totalWeight_take_le _ k) fits

/-- Weights whose total is not of 32 bits, the first of them zero. -/
theorem Distribution.proportional_of_largest :
    0 < totalWeight (([0, 4294967295, 1, 4294967295] : List UInt32).map UInt32.toNat) ∧
      Proportional (([0, 4294967295, 1, 4294967295] : List UInt32).map UInt32.toNat) :=
  ⟨by decide, (proportional_of_words [0, 4294967295, 1, 4294967295] (by decide) (by decide)).2⟩

end LiveConfig
