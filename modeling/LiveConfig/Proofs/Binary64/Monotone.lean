import Mathlib.Tactic.SplitIfs
import LiveConfig.Proofs.Binary64.Nearest

/-! Rounding preserves order.

A quotient that is not above another one is not rounded to a number above the number of the other.
Within one binade this is so because the nearest multiples of one step are in order. Between two
binades stands a power of two, which is on the grids of both, and neither quotient is rounded across
it. -/
namespace LiveConfig.Binary64

section Nearest

variable {a b d : Nat}

theorem div_le_nearestEven (a d : Nat) : a / d ≤ nearestEven a d := by
  simp only [nearestEven]
  split
  · exact Nat.le_refl _
  · split
    · exact Nat.le_succ _
    · split
      · exact Nat.le_refl _
      · exact Nat.le_succ _

theorem nearestEven_mono (le : a ≤ b) (d : Nat) : nearestEven a d ≤ nearestEven b d := by
  rcases Nat.lt_or_eq_of_le (Nat.div_le_div_right (c := d) le) with less | equal
  · calc nearestEven a d ≤ a / d + 1 := nearestEven_le a d
      _ ≤ b / d := less
      _ ≤ nearestEven b d := div_le_nearestEven b d
  · have first : a / d * d + a % d = a := Nat.div_add_mod' a d
    have second : a / d * d + b % d = b := equal ▸ Nat.div_add_mod' b d
    have rest : a % d ≤ b % d := by omega
    simp only [nearestEven, equal]
    split_ifs <;> omega

theorem stepExponent_mono (le : a ≤ b) (d : Nat) : stepExponent a d ≤ stepExponent b d := by
  have bits : (a / d).log2 ≤ (b / d).log2 := by
    rcases Nat.eq_zero_or_pos (a / d) with zero | positive
    · rw [zero]
      exact Nat.zero_le _
    · have quotient : a / d ≤ b / d := Nat.div_le_div_right le
      rw [Nat.le_log2 (by omega)]
      exact Nat.le_trans (Nat.log2_self_le (Nat.ne_of_gt positive)) quotient
  exact Nat.sub_le_sub_right bits 52

/-- On any grid but the finest a quotient is rounded to a significand with the hidden bit. -/
theorem hiddenBit_le_nearestEven (coarse : 0 < stepExponent a d) :
    hiddenBit ≤ nearestEven a (d <<< stepExponent a d) := by
  have positive : a / d ≠ 0 := by
    intro zero
    simp [stepExponent, zero] at coarse
  have bits : (a / d).log2 = 52 + stepExponent a d := by
    simp only [stepExponent] at coarse ⊢
    omega
  have full : hiddenBit * 2 ^ stepExponent a d ≤ a / d := by
    have least := Nat.log2_self_le positive
    rw [bits, Nat.pow_add] at least
    exact least
  calc hiddenBit ≤ a / d / 2 ^ stepExponent a d :=
        (Nat.le_div_iff_mul_le (Nat.two_pow_pos _)).mpr full
    _ = a / (d <<< stepExponent a d) := by rw [Nat.div_div_eq_div_mul, Nat.shiftLeft_eq]
    _ ≤ nearestEven a (d <<< stepExponent a d) := div_le_nearestEven _ _

end Nearest

section Ratio

variable {num num' den den' : Nat}

/-- The fields of a number before they are limited to those of infinity. -/
theorem steps_add_nearestEven_mono {a b : Nat} (le : a ≤ b) (den : Nat) :
    stepExponent a den * hiddenBit + nearestEven a (den <<< stepExponent a den) ≤
      stepExponent b den * hiddenBit + nearestEven b (den <<< stepExponent b den) := by
  rcases Nat.lt_or_eq_of_le (stepExponent_mono le den) with less | equal
  · -- between the two grids stands a power of two
    have two : (2 : Nat) ^ 53 = 2 * hiddenBit := by decide
    calc stepExponent a den * hiddenBit + nearestEven a (den <<< stepExponent a den)
        ≤ stepExponent a den * hiddenBit + 2 * hiddenBit :=
          Nat.add_le_add_left (two ▸ nearestEven_step_le a den) _
      _ = (stepExponent a den + 1) * hiddenBit + hiddenBit := by
          rw [Nat.two_mul, ← Nat.add_assoc, Nat.succ_mul]
      _ ≤ stepExponent b den * hiddenBit + nearestEven b (den <<< stepExponent b den) :=
          Nat.add_le_add (Nat.mul_le_mul_right _ less)
            (hiddenBit_le_nearestEven (Nat.zero_lt_of_lt less))
  · rw [equal]
    exact Nat.add_le_add_left (nearestEven_mono le _) _

theorem ratioFields_mono (le : num ≤ num') (den : Nat) :
    ratioFields num den ≤ ratioFields num' den := by
  have fields := steps_add_nearestEven_mono (Nat.mul_le_mul_right unitsOfOne le) den
  exact Nat.le_min.mpr ⟨Nat.le_trans (Nat.min_le_left _ _) fields, Nat.min_le_right _ _⟩

/-- Quotients are rounded in their order. -/
theorem ratioFields_le_of_quotient_le (pos : 0 < den) (pos' : 0 < den')
    (le : num * den' ≤ num' * den) : ratioFields num den ≤ ratioFields num' den' :=
  calc ratioFields num den = ratioFields (den' * num) (den' * den) :=
        (ratioFields_mul_left pos' num den).symm
    _ ≤ ratioFields (den * num') (den' * den) :=
        ratioFields_mono (by rwa [Nat.mul_comm, Nat.mul_comm den]) _
    _ = ratioFields (den * num') (den * den') := by rw [Nat.mul_comm den']
    _ = ratioFields num' den' := ratioFields_mul_left pos num' den'

end Ratio

section Magnitude

theorem magnitude_ofFields_mono {f g : Nat} (le : f ≤ g) (inside : g ≤ infinityFields) :
    (ofFields false f).magnitude ≤ (ofFields false g).magnitude := by
  have inside' : f ≤ infinityFields := Nat.le_trans le inside
  have exponent := exponentField_ofFields (b := false) inside
  have exponent' := exponentField_ofFields (b := false) inside'
  rcases Nat.lt_or_eq_of_le (Nat.div_le_div_right (c := hiddenBit) le) with lower | same
  · apply Nat.le_of_lt
    apply magnitude_lt_of_exponent_lt
    rwa [exponent, exponent']
  · have split : hiddenBit * (g / hiddenBit) + f % hiddenBit = f := same ▸ Nat.div_add_mod f _
    have split' : hiddenBit * (g / hiddenBit) + g % hiddenBit = g := Nat.div_add_mod g _
    have fraction : f % hiddenBit ≤ g % hiddenBit := by omega
    rw [magnitude_ofFields inside, magnitude_ofFields inside', same]
    apply Nat.mul_le_mul_right
    split_ifs <;> omega

theorem magnitude_ofRatio_mono {num num' den den' : Nat} (pos : 0 < den) (pos' : 0 < den')
    (le : num * den' ≤ num' * den) :
    (ofRatio false num den).magnitude ≤ (ofRatio false num' den').magnitude :=
  magnitude_ofFields_mono (ratioFields_le_of_quotient_le pos pos' le)
    (ratioFields_le_infinity num' den')

theorem magnitude_ofNat_mono {n m : Nat} (le : n ≤ m) :
    (ofNat n).magnitude ≤ (ofNat m).magnitude :=
  magnitude_ofRatio_mono Nat.one_pos Nat.one_pos (by omega)

end Magnitude
end LiveConfig.Binary64
