import Mathlib.Algebra.Order.Field.Rat
import Mathlib.Tactic.NormNum
import LiveConfig.Proofs.Binary64.Monotone
import LiveConfig.Proofs.Distribution.Shares

/-! Comparing shares with the positions of hashes.

The end of a share is a quotient of weights, and the position of a hash is the hash over `2 ^ 32`.
They are compared as rational numbers, or as the binary64 numbers nearest to them. Either way the
end of the last share is above every position, and both sides are in their order. Up to a total of
`2 ^ 21` the two ways agree: a quotient with so small a denominator that is below a position is so
far below it that a number of 53 bits stands between the two. -/
namespace LiveConfig

/-- The position of a hash, which is exact. -/
def hashPosition (h : Nat) : Binary64 := .ofRatio false h UInt32.size

/-- Whether a cumulative weight reaches the position of a hash, as rational numbers. -/
def reachesExactly (h running total : Nat) : Bool := decide ((h : ℚ) / 2 ^ 32 ≤ running / total)

/-- Comparing cumulative weights with hashes as one compares numbers: one is above all positions,
and both sides are in their order. -/
structure Comparison (accepts : Nat → Nat → Nat → Bool) : Prop where
  whole {h total : Nat} : h < UInt32.size → 0 < total → total < 2 ^ 64 →
    accepts h total total = true
  earlier {h h' running total : Nat} : h ≤ h' → h' < UInt32.size → running ≤ total → 0 < total →
    total < 2 ^ 64 → accepts h' running total = true → accepts h running total = true
  further {h running running' total : Nat} : running ≤ running' → h < UInt32.size →
    running' ≤ total → 0 < total → total < 2 ^ 64 → accepts h running total = true →
    accepts h running' total = true

section Exactly

variable {h running total : Nat}

theorem reachesExactly_iff (positive : 0 < total) :
    reachesExactly h running total = true ↔ h * total ≤ running * 2 ^ 32 := by
  have size : (0 : ℚ) < 2 ^ 32 := by norm_num
  have total' : (0 : ℚ) < total := by exact_mod_cast positive
  rw [reachesExactly, decide_eq_true_eq, div_le_div_iff₀ size total']
  exact_mod_cast Iff.rfl

theorem comparison_exactly : Comparison reachesExactly where
  whole below positive _ := by
    have size : UInt32.size = 2 ^ 32 := by decide
    rw [reachesExactly_iff positive, Nat.mul_comm]
    exact Nat.mul_le_mul_left _ (by omega)
  earlier le _ _ positive _ reached := by
    rw [reachesExactly_iff positive] at reached ⊢
    exact Nat.le_trans (Nat.mul_le_mul_right _ le) reached
  further le _ _ positive _ reached := by
    rw [reachesExactly_iff positive] at reached ⊢
    exact Nat.le_trans reached (Nat.mul_le_mul_right _ le)

end Exactly

section Rounded

variable {h running total : Nat}

/-- A cumulative weight reaches the position of a hash by magnitude. -/
theorem reaches_hashPosition_iff {num den : Nat} (below : h < UInt32.size)
    (quotient : Binary64.ofNat running / Binary64.ofNat total = .ofRatio false num den) :
    reaches (hashPosition h) running total = true ↔
      (hashPosition h).magnitude ≤ (Binary64.ofRatio false num den).magnitude := by
  have unit : (hashPosition h).InUnit := Binary64.inUnit_word below
  have within := Binary64.ratioFields_le_infinity num den
  rw [reaches_iff unit.number (quotient ▸ Binary64.isNaN_ofFields within), quotient, hashPosition,
    Binary64.ofRatio, Binary64.ofRatio, Binary64.units_ofFields within,
    Binary64.units_ofFields (Binary64.ratioFields_le_infinity h UInt32.size)]
  exact Int.ofNat_le

theorem comparison_rounded : Comparison fun h => reaches (hashPosition h) where
  whole below positive fits := reaches_total (Binary64.inUnit_word below) positive fits
  earlier le below within positive fits reached := by
    have size : 0 < UInt32.size := by decide
    have quotient := Binary64.ofNat_div_ofNat (Nat.lt_of_le_of_lt within fits) positive fits
    rw [reaches_hashPosition_iff below quotient] at reached
    rw [reaches_hashPosition_iff (Nat.lt_of_le_of_lt le below) quotient]
    exact Nat.le_trans (Binary64.magnitude_ofRatio_mono size size (Nat.mul_le_mul_right _ le))
      reached
  further {_ running running' total} le below within positive fits reached := by
    have fits' : running' < 2 ^ 64 := Nat.lt_of_le_of_lt within fits
    have divisor := Binary64.magnitude_ofNat_pos positive fits
    rw [reaches_hashPosition_iff below
      (Binary64.ofNat_div_ofNat (Nat.lt_of_le_of_lt le fits') positive fits)] at reached
    rw [reaches_hashPosition_iff below (Binary64.ofNat_div_ofNat fits' positive fits)]
    exact Nat.le_trans reached (Binary64.magnitude_ofRatio_mono divisor divisor
      (Nat.mul_le_mul_right _ (Binary64.magnitude_ofNat_mono le)))

/-- A quotient with a denominator of at most `2 ^ 21` that is below the position of a hash is
rounded to a number below it, since a number of 53 bits stands between the two. -/
theorem magnitude_ofRatio_lt_hashPosition (below : h < UInt32.size) (positive : 0 < total)
    (small : total ≤ 2 ^ 21) (less : running * 2 ^ 32 < h * total) :
    (Binary64.ofRatio false running total).magnitude < (hashPosition h).magnitude := by
  have size : UInt32.size = 2 ^ 32 := by decide
  have pos : 0 < h := Nat.pos_of_mul_pos_right (Nat.zero_lt_of_lt less)
  have between : running * 2 ^ 53 ≤ (h * 2 ^ 21 - 1) * total := by
    have split : (h * 2 ^ 21 - 1) * total = 2 ^ 21 * (h * total) - total := by
      rw [Nat.sub_mul, Nat.one_mul, Nat.mul_right_comm, Nat.mul_comm]
    omega
  calc (Binary64.ofRatio false running total).magnitude
      ≤ (Binary64.ofRatio false (h * 2 ^ 21 - 1) (2 ^ 53)).magnitude :=
        Binary64.magnitude_ofRatio_mono positive (Nat.two_pow_pos 53) between
    _ = (h * 2 ^ 21 - 1) <<< (1074 - 53) :=
        Binary64.magnitude_dyadic (by omega) (by decide)
    _ < (h <<< 21) <<< (1074 - 53) := by
        apply Binary64.shiftLeft_lt
        rw [Nat.shiftLeft_eq]
        omega
    _ = h <<< 1042 := (Nat.shiftLeft_add h 21 (1074 - 53)).symm
    _ = (hashPosition h).magnitude := (Binary64.magnitude_word below).symm

/-- Up to a total of `2 ^ 21` rounding decides no comparison. -/
theorem reaches_eq_reachesExactly (below : h < UInt32.size) (le : running ≤ total)
    (positive : 0 < total) (small : total ≤ 2 ^ 21) :
    reaches (hashPosition h) running total = reachesExactly h running total := by
  have short {n : Nat} (le : n ≤ total) : n < 2 ^ 53 :=
    Nat.lt_of_le_of_lt (Nat.le_trans le small) (by decide)
  have quotient := Binary64.ofNat_div_ofNat_exact (short le) positive (short (Nat.le_refl total))
  rw [Bool.eq_iff_iff, reaches_hashPosition_iff below quotient, reachesExactly_iff positive]
  constructor
  · intro reached
    rw [← Nat.not_lt] at reached ⊢
    intro less
    exact reached (magnitude_ofRatio_lt_hashPosition below positive small less)
  · intro reached
    exact Binary64.magnitude_ofRatio_mono (by decide) positive reached

end Rounded
end LiveConfig
