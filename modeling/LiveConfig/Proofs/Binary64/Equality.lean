import LiveConfig.Proofs.Binary64.Quotient

/-! Equal numbers.

The fields of a number follow from its magnitude, since a significand of a higher exponent is
shifted beyond every one of a lower exponent. So equal numbers are the same word, with one
exception: the two zeros. -/
namespace LiveConfig.Binary64

variable {x y : Binary64}

theorem bits_eq (x : Binary64) : x.bits.toNat =
    (if x.negative then signBit else 0) + x.exponentField * hiddenBit + x.fractionField := by
  have word := x.bits.toNat_lt
  have sign : signBit = 2048 * 4503599627370496 := by decide
  unfold negative exponentField fractionField
  rw [hiddenBit_eq, sign]
  simp only [decide_eq_true_eq]
  split
  · omega
  · omega

theorem eq_of_fields (sign : x.negative = y.negative) (exponent : x.exponentField = y.exponentField)
    (fraction : x.fractionField = y.fractionField) : x = y := by
  have words : x.bits.toNat = y.bits.toNat := by
    rw [bits_eq, bits_eq, sign, exponent, fraction]
  exact congrArg Binary64.mk (UInt64.toNat_inj.mp words)

theorem significand_lt (x : Binary64) : x.significand < 2 * hiddenBit := by
  have fraction : x.fractionField < hiddenBit := Nat.mod_lt _ (by decide)
  unfold significand
  split
  · omega
  · omega

theorem hiddenBit_le_significand (normal : x.exponentField ≠ 0) : hiddenBit ≤ x.significand := by
  rw [significand, if_neg normal]
  omega

theorem magnitude_of_subnormal (subnormal : x.exponentField = 0) :
    x.magnitude = x.fractionField := by
  unfold magnitude significand unitExponent
  rw [if_pos subnormal, subnormal, Nat.zero_sub, Nat.shiftLeft_zero]

theorem magnitude_lt_of_exponent_lt (lower : x.exponentField < y.exponentField) :
    x.magnitude < y.magnitude := by
  have normal : hiddenBit ≤ y.significand := hiddenBit_le_significand (by omega)
  by_cases subnormal : x.exponentField = 0
  · calc x.magnitude = x.fractionField := magnitude_of_subnormal subnormal
      _ < hiddenBit := Nat.mod_lt _ (by decide)
      _ ≤ y.significand := normal
      _ ≤ y.magnitude := Nat.le_shiftLeft
  · obtain ⟨k, apart⟩ : ∃ k, y.unitExponent = x.unitExponent + 1 + k :=
      ⟨y.exponentField - x.exponentField - 1, by unfold unitExponent; omega⟩
    calc x.magnitude < (2 * hiddenBit) <<< x.unitExponent := shiftLeft_lt x.significand_lt _
      _ = hiddenBit <<< (x.unitExponent + 1) := (Nat.shiftLeft_succ_inside _ _).symm
      _ ≤ y.significand <<< (x.unitExponent + 1) := by
        rw [Nat.shiftLeft_eq, Nat.shiftLeft_eq]
        exact Nat.mul_le_mul_right _ normal
      _ ≤ (y.significand <<< (x.unitExponent + 1)) <<< k := Nat.le_shiftLeft
      _ = y.magnitude := by rw [magnitude, apart, ← Nat.shiftLeft_add]

theorem fields_of_magnitude (same : x.magnitude = y.magnitude) :
    x.exponentField = y.exponentField ∧ x.fractionField = y.fractionField := by
  have exponent : x.exponentField = y.exponentField := by
    rcases Nat.lt_trichotomy x.exponentField y.exponentField with lower | equal | higher
    · exact absurd same (Nat.ne_of_lt (magnitude_lt_of_exponent_lt lower))
    · exact equal
    · exact absurd same.symm (Nat.ne_of_lt (magnitude_lt_of_exponent_lt higher))
  refine ⟨exponent, ?_⟩
  have shift : x.unitExponent = y.unitExponent := by rw [unitExponent, exponent, unitExponent]
  have significands : x.significand = y.significand := by
    rw [magnitude, magnitude, shift, Nat.shiftLeft_eq, Nat.shiftLeft_eq] at same
    exact Nat.eq_of_mul_eq_mul_right (Nat.two_pow_pos _) same
  unfold significand at significands
  rw [exponent] at significands
  split at significands
  · exact significands
  · exact Nat.add_right_cancel significands

theorem magnitude_zero (b : Bool) : (zero b).magnitude = 0 := by cases b <;> decide

theorem negative_zero (b : Bool) : (zero b).negative = b := by cases b <;> decide

theorem eq_zero_of_magnitude (nothing : x.magnitude = 0) : x = zero x.negative := by
  have same : x.magnitude = (zero x.negative).magnitude :=
    nothing.trans (magnitude_zero x.negative).symm
  obtain ⟨exponent, fraction⟩ := fields_of_magnitude same
  exact eq_of_fields (negative_zero x.negative).symm exponent fraction

/-- Equal numbers are the same, or zeros of opposite signs. -/
theorem eq_or_zeros_of_beq (equal : (x == y) = true) :
    x = y ∨ ∃ b, x = zero b ∧ y = zero !b := by
  rw [beq_eq, Bool.and_eq_true, beq_iff_eq] at equal
  have same := equal.2
  by_cases sign : x.negative = y.negative
  · left
    have magnitudes : x.magnitude = y.magnitude := by
      unfold units at same
      rw [sign] at same
      split at same
      · omega
      · omega
    obtain ⟨exponent, fraction⟩ := fields_of_magnitude magnitudes
    exact eq_of_fields sign exponent fraction
  · right
    have opposite : y.negative = !x.negative := Bool.eq_not.mpr (Ne.symm sign)
    have nothing : x.magnitude = 0 ∧ y.magnitude = 0 := by
      unfold units at same
      rw [opposite] at same
      cases negative : x.negative with
      | true =>
        simp only [negative, if_true, Bool.not_true, Bool.false_eq_true, if_false] at same
        omega
      | false =>
        simp only [negative, if_true, Bool.not_false, Bool.false_eq_true, if_false] at same
        omega
    refine ⟨x.negative, eq_zero_of_magnitude nothing.1, ?_⟩
    rw [← opposite]
    exact eq_zero_of_magnitude nothing.2

end LiveConfig.Binary64
