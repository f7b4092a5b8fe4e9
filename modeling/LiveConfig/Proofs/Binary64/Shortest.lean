import LiveConfig.Binary64.Shortest
import LiveConfig.Proofs.Binary64.Nearest

/-! The shortest decimal is near to its number.

What the interval around a number contains is rounded to the number. The search through the grids
ends with a decimal inside: seventeen digits after the leading one make a step that is finer than
the interval is wide. A decimal that is an integer is inside only if it is the number itself. -/
namespace LiveConfig.Binary64

variable {x : Binary64} {i : Interval} {num den : Nat} {k : Int}

/-- What the interval contains is near to the number. -/
theorem near_of_contains
    (inside : x.roundingInterval.contains (num * (4 * unitsOfOne)) den = true) :
    x.Near num den := by
  have below : x.quartersBelow =
      if decide (x.significand = hiddenBit) && decide (0 < x.unitExponent) then 1 else 2 := by
    simp [quartersBelow]
  have low : x.roundingInterval.low * den =
      4 * (x.significand * den <<< x.unitExponent) - x.quartersBelow * den <<< x.unitExponent := by
    unfold roundingInterval
    simp only [← below]
    rw [Nat.one_shiftLeft, Nat.mul_assoc, Nat.mul_comm (2 ^ x.unitExponent), ← Nat.shiftLeft_eq,
      Nat.sub_mul, Nat.mul_assoc]
  have high : x.roundingInterval.high * den =
      4 * (x.significand * den <<< x.unitExponent) + 2 * den <<< x.unitExponent := by
    unfold roundingInterval
    simp only
    rw [Nat.one_shiftLeft, Nat.mul_assoc, Nat.mul_comm (2 ^ x.unitExponent), ← Nat.shiftLeft_eq,
      Nat.add_mul, Nat.mul_assoc]
  have closed : x.roundingInterval.closed = decide (x.significand % 2 = 0) := rfl
  have scaled : num * (4 * unitsOfOne) = 4 * (num * unitsOfOne) := Nat.mul_left_comm _ _ _
  unfold Interval.contains at inside
  rw [low, high, closed, scaled] at inside
  split at inside
  · rename_i even
    simp only [Bool.and_eq_true, decide_eq_true_eq] at even inside
    exact ⟨by omega, by omega, .inl even⟩
  · simp only [Bool.and_eq_true, decide_eq_true_eq] at inside
    exact ⟨by omega, by omega, .inr ⟨by omega, by omega⟩⟩

namespace Near

/-- Only zero is near to zero. -/
theorem pos (near : x.Near num den) (positive : 0 < den) (nonzero : 0 < x.significand) :
    0 < num := by
  have unit : 0 < den <<< x.unitExponent := shiftLeft_pos positive _
  have most := quartersBelow_mul_le x (den <<< x.unitExponent)
  have least : 1 * den <<< x.unitExponent ≤ x.significand * den <<< x.unitExponent :=
    Nat.mul_le_mul_right _ nonzero
  rcases Nat.eq_zero_or_pos num with zero | pos
  · have low := near.low
    rw [zero, Nat.zero_mul] at low
    omega
  · exact pos

/-- An integer is near to no number but itself. -/
theorem isIntegral {n : Nat} (near : x.Near (n * den) den) (positive : 0 < den)
    (finite : x.isFinite = true) : x.isIntegral = true := by
  have whole : ∃ n, x.magnitude = n * unitsOfOne := by
    simp only [magnitude, mul_unitsOfOne]
    rcases Nat.le_total 1074 x.unitExponent with coarse | fine
    · obtain ⟨more, exponent⟩ := Nat.exists_eq_add_of_le' coarse
      exact ⟨x.significand <<< more, by rw [exponent, Nat.shiftLeft_add]⟩
    · obtain ⟨less, exponent⟩ := Nat.exists_eq_add_of_le' fine
      have unit : 0 < den <<< x.unitExponent := shiftLeft_pos positive _
      have most := quartersBelow_mul_le x (den <<< x.unitExponent)
      have multiple : n * den * unitsOfOne = n <<< less * den <<< x.unitExponent := by
        rw [mul_unitsOfOne, exponent, Nat.shiftLeft_add]
        simp only [Nat.shiftLeft_eq]
        rw [Nat.mul_assoc (n * den), Nat.mul_mul_mul_comm]
      have low := near.low
      have high := near.high
      rw [multiple] at low high
      have same : x.significand = n <<< less := by
        rcases Nat.lt_trichotomy x.significand (n <<< less) with lower | equal | higher
        · have := multiple_add_le lower (den <<< x.unitExponent)
          omega
        · exact equal
        · have := multiple_add_le higher (den <<< x.unitExponent)
          omega
      exact ⟨n, by rw [same, ← Nat.shiftLeft_add, ← exponent]⟩
  obtain ⟨n, multiple⟩ := whole
  unfold Binary64.isIntegral
  rw [finite, multiple, Nat.mul_mod_left]
  rfl

end Near

theorem scale_eq (k : Int) :
    (if k < 0 then Nat.pow 10 k.natAbs else 1) = 10 ^ (-k).toNat := by
  split
  · rename_i negative
    rw [show (-k).toNat = k.natAbs by omega]
    rfl
  · rename_i nonneg
    rw [show (-k).toNat = 0 by omega, Nat.pow_zero]

theorem factor_eq (k : Int) :
    (if k < 0 then 1 else Nat.pow 10 k.natAbs) = 10 ^ k.toNat := by
  split
  · rename_i negative
    rw [show k.toNat = 0 by omega, Nat.pow_zero]
  · rename_i nonneg
    rw [show k.toNat = k.natAbs by omega]
    rfl

/-- Powers of ten as quotients, one from another. -/
theorem tens_sub (k : Int) (j : Nat) :
    10 ^ (k - j).toNat * (10 ^ j * 10 ^ (-k).toNat) = 10 ^ k.toNat * 10 ^ (-(k - j)).toNat := by
  rw [← Nat.pow_add, ← Nat.pow_add, ← Nat.pow_add]
  congr 1
  omega

namespace Interval

/-- A grid only offers what the interval contains. -/
theorem contains_of_onGrid {c : Nat} (hit : i.onGrid k = some c) :
    i.contains (c * (i.den * 10 ^ k.toNat)) (10 ^ (-k).toNat) = true := by
  unfold onGrid at hit
  rw [scale_eq, factor_eq] at hit
  extract_lets scale step d down up gap at hit
  split at hit
  · rename_i both
    rw [Bool.and_eq_true] at both
    split at hit
    · rw [← Option.some.inj hit]
      exact both.1
    · rw [← Option.some.inj hit]
      exact both.2
  · split at hit
    · rw [← Option.some.inj hit]
      assumption
    · split at hit
      · rw [← Option.some.inj hit]
        assumption
      · cases hit

/-- A grid offers something if the neighbour below the value is inside. -/
theorem onGrid_isSome (low : i.low * 10 ^ (-k).toNat <
      i.value * 10 ^ (-k).toNat / (i.den * 10 ^ k.toNat) * (i.den * 10 ^ k.toNat))
    (high : i.value < i.high) : (i.onGrid k).isSome = true := by
  have down : i.contains
      (i.value * 10 ^ (-k).toNat / (i.den * 10 ^ k.toNat) * (i.den * 10 ^ k.toNat))
      (10 ^ (-k).toNat) = true := by
    have tens : 0 < 10 ^ (-k).toNat := Nat.pow_pos (by decide)
    have above := Nat.mul_lt_mul_of_pos_right high tens
    have floor := Nat.div_mul_le_self (i.value * 10 ^ (-k).toNat) (i.den * 10 ^ k.toNat)
    unfold contains
    split
    · simp only [Bool.and_eq_true, decide_eq_true_eq]
      omega
    · simp only [Bool.and_eq_true, decide_eq_true_eq]
      omega
  unfold onGrid
  rw [scale_eq, factor_eq]
  simp only [down, Bool.true_and, if_true]
  split
  · split
    · rfl
    · rfl
  · rfl

/-- The search ends on a grid that offers something, at the latest on one that is known to. -/
theorem search_hit {n j : Nat} (inside : j < n) (hit : (i.onGrid (k - j)).isSome = true) :
    i.onGrid (i.search n k).exponent = some (i.search n k).digits ∧
      k - j ≤ (i.search n k).exponent := by
  induction n generalizing k j with
  | zero => exact absurd inside (Nat.not_lt_zero j)
  | succ n ih =>
    unfold search
    split
    · rename_i d here
      exact ⟨here, by simp only; omega⟩
    · rename_i none
      cases j with
      | zero =>
        rw [Int.natCast_zero, Int.sub_zero, none] at hit
        cases hit
      | succ j =>
        have shift : k - (j + 1 : Nat) = k - 1 - j := by omega
        rw [shift] at hit ⊢
        exact ih (Nat.lt_of_succ_lt_succ inside) hit

end Interval

/-- A quotient is at least a power of ten. -/
def AtLeast (num den : Nat) (k : Int) : Prop := den * 10 ^ k.toNat ≤ num * 10 ^ (-k).toNat

theorem atLeast_iff (num den : Nat) (k : Int) :
    (if k < 0 then decide (den ≤ num * Nat.pow 10 k.natAbs)
      else decide (den * Nat.pow 10 k.natAbs ≤ num)) = true ↔ AtLeast num den k := by
  unfold AtLeast
  rw [← scale_eq, ← factor_eq]
  split
  · rw [decide_eq_true_iff, Nat.mul_one]
  · rw [decide_eq_true_iff, Nat.mul_one]

/-- The guess at the leading exponent, from the binary lengths alone. -/
def guess (num den : Nat) : Int := ((num.log2 : Int) - (den.log2 : Int)) * 30103 / 100000 - 2

/-- The leading exponent is the guess or one of the next three, the highest that is reached. -/
theorem leadingExponent_cases (num den : Nat) :
    ∃ j : Nat, leadingExponent num den = guess num den + j ∧
      (j = 0 ∨ AtLeast num den (guess num den + j)) ∧
      ∀ l : Nat, j < l → l ≤ 3 → ¬ AtLeast num den (guess num den + l) := by
  unfold leadingExponent
  extract_lets low reaches
  have reached (k : Int) : reaches k = true ↔ AtLeast num den k := atLeast_iff num den k
  have missed {k : Int} (not : ¬ reaches k = true) : ¬ AtLeast num den k :=
    fun atLeast => not ((reached k).mpr atLeast)
  split
  · rename_i third
    refine ⟨3, rfl, .inr ((reached _).mp third), ?_⟩
    intro l above most
    omega
  · rename_i third
    split
    · rename_i second
      refine ⟨2, rfl, .inr ((reached _).mp second), ?_⟩
      intro l above most
      have only : l = 3 := by omega
      rw [only]
      exact missed third
    · rename_i second
      split
      · rename_i first
        refine ⟨1, rfl, .inr ((reached _).mp first), ?_⟩
        intro l above most
        have either : l = 2 ∨ l = 3 := by omega
        rcases either with rfl | rfl
        · exact missed second
        · exact missed third
      · rename_i first
        refine ⟨0, (Int.add_zero _).symm, .inl rfl, ?_⟩
        intro l above most
        have higher : l = 1 ∨ l = 2 ∨ l = 3 := by omega
        rcases higher with rfl | rfl | rfl
        · exact missed first
        · exact missed second
        · exact missed third

/-- The guess counts 0.30103 decimal digits for a binary one, which is off by less than one digit
for as many binary digits as there can be. -/
theorem two_pow_le {n p : Nat} (far : 30103 * n ≤ 100000 * p) (short : n < 10000) :
    2 ^ n ≤ 10 ^ (p + 1) := by
  have bases : 2 ^ 93 ≤ 10 ^ 28 := by decide
  have powers : (2 ^ n) ^ 93 ≤ (10 ^ (p + 1)) ^ 93 := by
    calc (2 ^ n) ^ 93 = (2 ^ 93) ^ n := Nat.pow_right_comm 2 n 93
      _ ≤ (10 ^ 28) ^ n := Nat.pow_le_pow_left bases n
      _ = 10 ^ (28 * n) := (Nat.pow_mul ..).symm
      _ ≤ 10 ^ ((p + 1) * 93) := Nat.pow_le_pow_right (by decide) (by omega)
      _ = (10 ^ (p + 1)) ^ 93 := Nat.pow_mul ..
  exact (Nat.pow_le_pow_iff_left (by decide)).mp powers

theorem ten_pow_le {n p : Nat} (near : 100000 * p ≤ 30103 * n) (short : n < 10000) :
    10 ^ p ≤ 2 ^ (n + 1) := by
  have bases : 10 ^ 59 ≤ 2 ^ 196 := by decide
  have powers : (10 ^ p) ^ 59 ≤ (2 ^ (n + 1)) ^ 59 := by
    calc (10 ^ p) ^ 59 = (10 ^ 59) ^ p := Nat.pow_right_comm 10 p 59
      _ ≤ (2 ^ 196) ^ p := Nat.pow_le_pow_left bases p
      _ = 2 ^ (196 * p) := (Nat.pow_mul ..).symm
      _ ≤ 2 ^ ((n + 1) * 59) := Nat.pow_le_pow_right (by decide) (by omega)
      _ = (2 ^ (n + 1)) ^ 59 := Nat.pow_mul ..
  exact (Nat.pow_le_pow_iff_left (by decide)).mp powers

/-- The guess is not too high. -/
theorem atLeast_guess (pos : 0 < num) (shortNum : num.log2 < 9000) (shortDen : den.log2 < 9000) :
    AtLeast num den (guess num den) := by
  have low : 2 ^ num.log2 ≤ num := Nat.log2_self_le (Nat.ne_of_gt pos)
  have high : den ≤ 2 ^ (den.log2 + 1) := Nat.le_of_lt Nat.lt_log2_self
  unfold AtLeast guess
  generalize num.log2 = a at *
  generalize den.log2 = b at *
  generalize exponent : ((a : Int) - b) * 30103 / 100000 - 2 = k
  rcases Int.lt_or_le k 0 with negative | nonneg
  · have up : k.toNat = 0 := by omega
    have far : 30103 * (b + 1 - a) ≤ 100000 * ((-k).toNat - 1) := by omega
    have tens := two_pow_le far (by omega)
    rw [Nat.sub_add_cancel (by omega)] at tens
    rw [up, Nat.pow_zero, Nat.mul_one]
    calc den ≤ 2 ^ (b + 1) := high
      _ ≤ 2 ^ (a + (b + 1 - a)) := Nat.pow_le_pow_right (by decide) (by omega)
      _ = 2 ^ a * 2 ^ (b + 1 - a) := Nat.pow_add ..
      _ ≤ num * 10 ^ (-k).toNat := Nat.mul_le_mul low tens
  · have down : (-k).toNat = 0 := by omega
    obtain ⟨n, rfl⟩ : ∃ n, a = b + 2 + n := ⟨a - b - 2, by omega⟩
    have near : 100000 * k.toNat ≤ 30103 * n := by omega
    have tens := ten_pow_le near (by omega)
    rw [down, Nat.pow_zero, Nat.mul_one]
    calc den * 10 ^ k.toNat ≤ 2 ^ (b + 1) * 2 ^ (n + 1) := Nat.mul_le_mul high tens
      _ = 2 ^ (b + 2 + n) := by rw [← Nat.pow_add]; congr 1; omega
      _ ≤ num := low

theorem atLeast_leadingExponent (pos : 0 < num) (shortNum : num.log2 < 9000)
    (shortDen : den.log2 < 9000) : AtLeast num den (leadingExponent num den) := by
  obtain ⟨j, exponent, reached, _⟩ := leadingExponent_cases num den
  rw [exponent]
  rcases reached with rfl | reached
  · rw [Int.natCast_zero, Int.add_zero]
    exact atLeast_guess pos shortNum shortDen
  · exact reached

theorem guess_le_leadingExponent (num den : Nat) : guess num den ≤ leadingExponent num den := by
  obtain ⟨j, exponent, _, _⟩ := leadingExponent_cases num den
  omega

/-- The leading digit of one or more is not behind the point. -/
theorem leadingExponent_nonneg (one : den ≤ num) (pos : 0 < den) :
    0 ≤ leadingExponent num den := by
  obtain ⟨j, exponent, _, missed⟩ := leadingExponent_cases num den
  have longer : den.log2 ≤ num.log2 :=
    (Nat.le_log2 (by omega)).mpr (Nat.le_trans (Nat.log2_self_le (Nat.ne_of_gt pos)) one)
  rcases Int.lt_or_le (leadingExponent num den) 0 with negative | nonneg
  · obtain ⟨l, zero⟩ : ∃ l : Nat, guess num den + l = 0 := ⟨(-guess num den).toNat, by omega⟩
    have least : -2 ≤ guess num den := by
      unfold guess
      omega
    have reached : AtLeast num den (guess num den + l) := by
      rw [zero]
      simpa [AtLeast] using one
    exact absurd reached (missed l (by omega) (by omega))
  · exact nonneg

/-- Seventeen digits after the leading one make a step finer than the interval is wide. -/
theorem onGrid_fine {w : Nat} (below : i.low + w ≤ i.value) (above : i.value < i.high)
    (short : i.value ≤ 10 ^ 17 * w) (pos : 0 < i.den) (reached : AtLeast i.value i.den k) :
    (i.onGrid (k - (17 : Nat))).isSome = true := by
  apply Interval.onGrid_isSome _ above
  have shift := tens_sub k 17
  generalize 10 ^ (-(k - (17 : Nat))).toNat = s at *
  generalize power : 10 ^ (k - (17 : Nat)).toNat = p at *
  have positive : 0 < i.den * p := Nat.mul_pos pos (power ▸ Nat.pow_pos (by decide))
  have fine : i.den * p ≤ w * s := by
    have scale : 0 < 10 ^ 17 * 10 ^ (-k).toNat :=
      Nat.mul_pos (by decide) (Nat.pow_pos (by decide))
    apply Nat.le_of_mul_le_mul_right _ scale
    calc i.den * p * (10 ^ 17 * 10 ^ (-k).toNat) = i.den * 10 ^ k.toNat * s := by
          rw [Nat.mul_assoc, shift, Nat.mul_assoc]
      _ ≤ i.value * 10 ^ (-k).toNat * s := Nat.mul_le_mul_right s reached
      _ ≤ 10 ^ 17 * w * 10 ^ (-k).toNat * s :=
          Nat.mul_le_mul_right s (Nat.mul_le_mul_right _ short)
      _ = w * s * (10 ^ 17 * 10 ^ (-k).toNat) := by ac_rfl
  have apart : i.low * s + w * s ≤ i.value * s := by
    rw [← Nat.add_mul]
    exact Nat.mul_le_mul_right s below
  have split := Nat.div_add_mod' (i.value * s) (i.den * p)
  have rest := Nat.mod_lt (i.value * s) positive
  omega

/-- A decimal as a quotient of naturals. -/
def Decimal.numerator (d : Decimal) : Nat := d.digits * 10 ^ d.exponent.toNat

def Decimal.denominator (d : Decimal) : Nat := 10 ^ (-d.exponent).toNat

/-- The interval is at least a unit of the last binary digit wide below the value, and the value has
fewer than seventeen decimal digits in this unit. -/
theorem roundingInterval_bounds (positive : 0 < x.significand) :
    x.roundingInterval.low + 2 ^ x.unitExponent ≤ x.roundingInterval.value ∧
      x.roundingInterval.value < x.roundingInterval.high ∧
      x.roundingInterval.value ≤ 10 ^ 17 * 2 ^ x.unitExponent := by
  have short := x.significand_lt
  rw [hiddenBit_eq] at short
  unfold roundingInterval
  simp only [Nat.one_shiftLeft]
  refine ⟨?_, ?_, ?_⟩
  · rw [← Nat.succ_mul]
    apply Nat.mul_le_mul_right
    split
    · omega
    · omega
  · exact Nat.mul_lt_mul_of_pos_right (by omega) (Nat.two_pow_pos _)
  · exact Nat.mul_le_mul_right _ (by omega)

theorem roundingInterval_pos (positive : 0 < x.significand) : 0 < x.roundingInterval.value := by
  obtain ⟨low, _, _⟩ := roundingInterval_bounds positive
  have := Nat.two_pow_pos x.unitExponent
  omega

theorem log2_value_lt (positive : 0 < x.significand) : x.roundingInterval.value.log2 < 9000 := by
  have exponent : x.exponentField < 2048 := Nat.mod_lt _ (by decide)
  have short := (roundingInterval_bounds positive).2.2
  apply (Nat.log2_lt (Nat.ne_of_gt (roundingInterval_pos positive))).mpr
  calc x.roundingInterval.value ≤ 10 ^ 17 * 2 ^ x.unitExponent := short
    _ < 2 ^ 60 * 2 ^ x.unitExponent := Nat.mul_lt_mul_of_pos_right (by decide) (Nat.two_pow_pos _)
    _ = 2 ^ (60 + x.unitExponent) := (Nat.pow_add ..).symm
    _ ≤ 2 ^ 9000 := Nat.pow_le_pow_right (by decide) (by unfold unitExponent; omega)

theorem roundingInterval_den (x : Binary64) : x.roundingInterval.den = 4 * unitsOfOne := rfl

theorem log2_den (x : Binary64) : x.roundingInterval.den.log2 = 1076 := by
  rw [roundingInterval_den, mul_unitsOfOne, log2_shiftLeft (by decide)]
  decide

theorem den_pos (x : Binary64) : 0 < x.roundingInterval.den := by
  rw [roundingInterval_den, mul_unitsOfOne]
  exact shiftLeft_pos (by decide) 1074

/-- Seventeen digits suffice. -/
theorem onGrid_leadingExponent (positive : 0 < x.significand) :
    (x.roundingInterval.onGrid (leadingExponent x.roundingInterval.value x.roundingInterval.den -
      (17 : Nat))).isSome = true := by
  obtain ⟨below, above, short⟩ := roundingInterval_bounds positive
  have shortDen : x.roundingInterval.den.log2 < 9000 := by
    rw [log2_den]
    decide
  exact onGrid_fine below above short (den_pos x)
    (atLeast_leadingExponent (roundingInterval_pos positive) (log2_value_lt positive) shortDen)

/-- The shortest decimal is near, and its last digit is not far behind the point. -/
theorem shortest_spec (positive : 0 < x.significand) :
    x.Near x.shortest.numerator x.shortest.denominator ∧ -343 ≤ x.shortest.exponent := by
  obtain ⟨found, least⟩ :=
    Interval.search_hit (by decide : 17 < 18) (onGrid_leadingExponent positive)
  constructor
  · apply near_of_contains
    have inside := Interval.contains_of_onGrid found
    rw [roundingInterval_den] at inside
    rw [Decimal.numerator, Nat.mul_assoc, Nat.mul_comm (10 ^ _)]
    exact inside
  · have guessed := guess_le_leadingExponent x.roundingInterval.value x.roundingInterval.den
    unfold guess at guessed
    rw [log2_den] at guessed
    unfold shortest
    simp only
    omega

/-- The shortest decimal of an integer is an integer: the search does not go behind the point. -/
theorem shortest_of_isIntegral (positive : 0 < x.significand) (integral : x.isIntegral = true) :
    0 ≤ x.shortest.exponent := by
  obtain ⟨below, above, _⟩ := roundingInterval_bounds positive
  have multiple : x.roundingInterval.value % x.roundingInterval.den = 0 := by
    have whole : x.magnitude % unitsOfOne = 0 := by
      rw [isIntegral, Bool.and_eq_true, decide_eq_true_eq] at integral
      exact integral.2
    have value : x.roundingInterval.value = 4 * x.magnitude := by
      rw [magnitude, Nat.shiftLeft_eq, ← Nat.mul_assoc, ← Nat.one_shiftLeft]
      rfl
    rw [value, roundingInterval_den, Nat.mul_mod_mul_left, whole]
  have one : x.roundingInterval.den ≤ x.roundingInterval.value :=
    Nat.le_of_dvd (roundingInterval_pos positive) (Nat.dvd_of_mod_eq_zero multiple)
  have exact : (x.roundingInterval.onGrid 0).isSome = true := by
    apply Interval.onGrid_isSome _ above
    have width := Nat.two_pow_pos x.unitExponent
    simp only [Int.neg_zero, Int.toNat_zero, Nat.pow_zero, Nat.mul_one]
    rw [Nat.div_mul_cancel (Nat.dvd_of_mod_eq_zero multiple)]
    omega
  have leading := leadingExponent_nonneg one (den_pos x)
  have hit := onGrid_leadingExponent positive
  unfold shortest
  simp only
  generalize leadingExponent x.roundingInterval.value x.roundingInterval.den = k at *
  rcases Nat.lt_or_ge 17 k.toNat with far | near
  · have ends := (Interval.search_hit (by decide : 17 < 18) hit).2
    omega
  · have units : k - (k.toNat : Int) = 0 := by omega
    rw [← units] at exact
    have inside : k.toNat < 18 := Nat.lt_succ_of_le near
    have ends := (Interval.search_hit inside exact).2
    omega

end LiveConfig.Binary64
