import LiveConfig.Proofs.Binary64.Fields

/-! The number nearest to a quotient.

A quotient is rounded to a number exactly by being near to it: no further away than half a step of
the grid there, and if it is that far, the significand is even. Below a power of two the grid is
twice as fine, so there the distance may only be half as large. Neither numerator nor denominator
matter beyond their quotient. -/
namespace LiveConfig.Binary64

variable {a d q : Nat}

/-- Different multiples are at least one unit apart. -/
theorem multiple_add_le {m n : Nat} (less : m < n) (d : Nat) : m * d + d ≤ n * d := by
  rw [← Nat.succ_mul]
  exact Nat.mul_le_mul_right d less

/-- The nearest multiple, a half going to the even one. -/
theorem nearestEven_of_near (low : 2 * (q * d) ≤ 2 * a + d) (high : 2 * a ≤ 2 * (q * d) + d)
    (tie : q % 2 = 0 ∨ 2 * (q * d) < 2 * a + d ∧ 2 * a < 2 * (q * d) + d) (pos : 0 < d) :
    nearestEven a d = q := by
  have split : a / d * d + a % d = a := Nat.div_add_mod' a d
  have rest : a % d < d := Nat.mod_lt a pos
  have next : (a / d + 1) * d = a / d * d + d := Nat.succ_mul _ _
  unfold nearestEven
  simp only
  -- the quotient is `q`, or one less if the nearest multiple is above
  rcases Nat.lt_trichotomy q (a / d) with below | equal | above
  · have := multiple_add_le below d
    omega
  · rw [equal] at low high tie
    split
    · exact equal.symm
    · split
      · omega
      · split
        · exact equal.symm
        · omega
  · have least : q = a / d + 1 := by
      have : ¬ a / d + 1 < q := by
        intro farther
        have := multiple_add_le farther d
        omega
      omega
    rw [least, next] at low high tie
    split
    · omega
    · split
      · exact least.symm
      · split
        · omega
        · exact least.symm

theorem nearestEven_mul_left {c : Nat} (pos : 0 < c) (a d : Nat) :
    nearestEven (c * a) (c * d) = nearestEven a d := by
  have twice : 2 * (c * (a % d)) = c * (2 * (a % d)) := Nat.mul_left_comm 2 c _
  unfold nearestEven
  simp only [Nat.mul_div_mul_left a d pos, Nat.mul_mod_mul_left, twice,
    Nat.mul_lt_mul_left pos]

/-- Only the quotient matters. -/
theorem ratioFields_mul_left {c : Nat} (pos : 0 < c) (num den : Nat) :
    ratioFields (c * num) (c * den) = ratioFields num den := by
  have quotient : stepExponent (c * num * unitsOfOne) (c * den) =
      stepExponent (num * unitsOfOne) den := by
    unfold stepExponent
    rw [Nat.mul_assoc, Nat.mul_div_mul_left _ _ pos]
  have shifted (p : Nat) : (c * den) <<< p = c * den <<< p := by
    rw [Nat.shiftLeft_eq, Nat.shiftLeft_eq, Nat.mul_assoc]
  unfold ratioFields
  simp only [quotient, shifted]
  rw [Nat.mul_assoc, nearestEven_mul_left pos]

/-- Two integers of at most 53 bits are divided with one rounding. -/
theorem ofNat_div_ofNat_exact {n total : Nat} (fits : n < 2 ^ 53) (pos : 0 < total)
    (fitsTotal : total < 2 ^ 53) : ofNat n / ofNat total = ofRatio false n total := by
  have wider {m : Nat} (fits : m < 2 ^ 53) : m < 2 ^ 64 := Nat.lt_trans fits (by decide)
  rw [ofNat_div_ofNat (wider fits) pos (wider fitsTotal), magnitude_ofNat fits,
    magnitude_ofNat fitsTotal, Nat.mul_comm n, Nat.mul_comm total]
  exact congrArg (ofFields false) (ratioFields_mul_left (by decide +kernel) n total)

/-- The step is found from where the quotient lies between powers of two. -/
theorem stepExponent_of_bounds {e : Nat} (pos : 0 < d) (low : e = 0 ∨ 2 ^ (52 + e) * d ≤ a)
    (high : a < 2 ^ (53 + e) * d) : stepExponent a d = e := by
  have below : a / d < 2 ^ (53 + e) := (Nat.div_lt_iff_lt_mul pos).mpr high
  unfold stepExponent
  rcases Nat.eq_zero_or_pos (a / d) with zero | positive
  · rcases low with rfl | low
    · rw [zero]
      rfl
    · have := (Nat.le_div_iff_mul_le pos).mpr low
      have := Nat.two_pow_pos (52 + e)
      omega
  · have short := (Nat.log2_lt (Nat.ne_of_gt positive)).mpr below
    rcases low with rfl | low
    · omega
    · have := (Nat.le_log2 (Nat.ne_of_gt positive)).mpr ((Nat.le_div_iff_mul_le pos).mpr low)
      omega

/-- A quotient that is rounded on a grid has the fields of the nearest multiple there. -/
theorem ratioFields_of_step {num den e m : Nat} (step : stepExponent (num * unitsOfOne) den = e)
    (nearest : nearestEven (num * unitsOfOne) (den <<< e) = m)
    (finite : e * hiddenBit + m < infinityFields) : ratioFields num den = e * hiddenBit + m := by
  unfold ratioFields
  simp only [step, nearest]
  exact Nat.min_eq_left (Nat.le_of_lt finite)

theorem pow_add_mul (n k den : Nat) : 2 ^ (n + k) * den = 2 ^ n * den <<< k := by
  rw [Nat.shiftLeft_eq, Nat.pow_add, Nat.mul_assoc, Nat.mul_comm (2 ^ k)]

/-- Quarters of a step by which a quotient may be less than a number. -/
def quartersBelow (x : Binary64) : Nat :=
  if x.significand = hiddenBit ∧ 0 < x.unitExponent then 1 else 2

/-- A quotient is near to a number: within half a step, or less than that where the grid below is
finer, and closer still if the significand is odd. -/
structure Near (x : Binary64) (num den : Nat) : Prop where
  low : 4 * (x.significand * den <<< x.unitExponent) ≤
    4 * (num * unitsOfOne) + x.quartersBelow * den <<< x.unitExponent
  high : 4 * (num * unitsOfOne) ≤
    4 * (x.significand * den <<< x.unitExponent) + 2 * den <<< x.unitExponent
  tie : x.significand % 2 = 0 ∨
    4 * (x.significand * den <<< x.unitExponent) <
      4 * (num * unitsOfOne) + x.quartersBelow * den <<< x.unitExponent ∧
    4 * (num * unitsOfOne) <
      4 * (x.significand * den <<< x.unitExponent) + 2 * den <<< x.unitExponent

namespace Near

variable {x : Binary64} {num den : Nat}

theorem quartersBelow_mul_le (x : Binary64) (n : Nat) : x.quartersBelow * n ≤ 2 * n := by
  apply Nat.mul_le_mul_right
  unfold quartersBelow
  split <;> omega

/-- Near to a number and not below its own grid. -/
theorem ratioFields_coarse (near : x.Near num den) (pos : 0 < den) (finite : x.isFinite = true)
    (above : x.unitExponent = 0 ∨ hiddenBit * den <<< x.unitExponent ≤ num * unitsOfOne) :
    ratioFields num den = x.fields := by
  obtain ⟨low, high, tie⟩ := near
  have positive : 0 < den <<< x.unitExponent := shiftLeft_pos pos x.unitExponent
  have most := quartersBelow_mul_le x (den <<< x.unitExponent)
  have short : x.significand * den <<< x.unitExponent + den <<< x.unitExponent ≤
      9007199254740992 * den <<< x.unitExponent := by
    have := x.significand_lt
    rw [hiddenBit_eq] at this
    exact multiple_add_le (by omega) _
  have step : stepExponent (num * unitsOfOne) den = x.unitExponent := by
    apply stepExponent_of_bounds pos
    · rw [pow_add_mul]
      exact above
    · rw [pow_add_mul]
      omega
  have nearest : nearestEven (num * unitsOfOne) (den <<< x.unitExponent) = x.significand := by
    apply nearestEven_of_near
    · omega
    · omega
    · rcases tie with even | ⟨low, high⟩
      · exact .inl even
      · exact .inr ⟨by omega, by omega⟩
    · exact positive
  have inside := fields_lt finite
  rw [fields_eq] at inside ⊢
  exact ratioFields_of_step step nearest inside

/-- Near to a power of two and below it, on the finer grid there. -/
theorem ratioFields_finer (near : x.Near num den) (pos : 0 < den) (finite : x.isFinite = true)
    (coarse : 0 < x.unitExponent) (below : num * unitsOfOne < hiddenBit * den <<< x.unitExponent) :
    ratioFields num den = x.fields := by
  obtain ⟨low, high, tie⟩ := near
  have most := quartersBelow_mul_le x (den <<< x.unitExponent)
  have least : hiddenBit ≤ x.significand := by
    apply hiddenBit_le_significand
    unfold unitExponent at coarse
    omega
  have power : x.significand = hiddenBit := by
    have : ¬ hiddenBit < x.significand := by
      intro more
      have := multiple_add_le more (den <<< x.unitExponent)
      omega
    omega
  have quarter : x.quartersBelow = 1 := if_pos ⟨power, coarse⟩
  obtain ⟨e, exponent⟩ := Nat.exists_eq_succ_of_ne_zero (Nat.ne_of_gt coarse)
  have twice : den <<< x.unitExponent = 2 * den <<< e := by
    rw [exponent]
    exact Nat.shiftLeft_succ den e
  rw [quarter, power, hiddenBit_eq, twice] at low
  rw [hiddenBit_eq, twice] at below
  have positive : 0 < den <<< e := shiftLeft_pos pos e
  have step : stepExponent (num * unitsOfOne) den = e := by
    apply stepExponent_of_bounds pos
    · rw [pow_add_mul]
      omega
    · rw [pow_add_mul]
      omega
  have nearest : nearestEven (num * unitsOfOne) (den <<< e) = 2 * hiddenBit := by
    rw [hiddenBit_eq]
    apply nearestEven_of_near
    · omega
    · omega
    · exact .inl (by decide)
    · exact positive
  have inside := fields_lt finite
  have carried : x.unitExponent * hiddenBit + x.significand = e * hiddenBit + 2 * hiddenBit := by
    rw [power, exponent, Nat.succ_mul]
    omega
  rw [fields_eq, carried] at inside ⊢
  exact ratioFields_of_step step nearest inside

/-- A quotient that is near to a number is rounded to it. -/
theorem rounds (near : x.Near num den) (pos : 0 < den) (finite : x.isFinite = true) :
    ratioFields num den = x.fields := by
  rcases Nat.eq_zero_or_pos x.unitExponent with finest | coarse
  · exact near.ratioFields_coarse pos finite (.inl finest)
  · rcases Nat.lt_or_ge (num * unitsOfOne) (hiddenBit * den <<< x.unitExponent) with below | above
    · exact near.ratioFields_finer pos finite coarse below
    · exact near.ratioFields_coarse pos finite (.inr above)

end Near
end LiveConfig.Binary64
