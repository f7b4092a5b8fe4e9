import LiveConfig.Proofs.Binary64.Equality

/-! The fields of a number.

A number is made of its sign and of the 63 bits below it. Those of a finite number are below those
of the infinities, and its significand and its exponent can be read from them. -/
namespace LiveConfig.Binary64

variable {x : Binary64}

/-- The 63 bits below the sign. -/
def fields (x : Binary64) : Nat := x.exponentField * hiddenBit + x.fractionField

theorem fields_lt (finite : x.isFinite = true) : x.fields < infinityFields := by
  have exponent : x.exponentField < 2048 := Nat.mod_lt _ (by decide)
  have fraction : x.fractionField < hiddenBit := Nat.mod_lt _ (by decide)
  have below : x.exponentField ≠ 2047 := of_decide_eq_true finite
  calc x.fields < (x.exponentField + 1) * hiddenBit := by
        rw [fields, Nat.succ_mul]
        omega
    _ ≤ infinityFields := Nat.mul_le_mul_right _ (by omega)

theorem isNaN_of_isFinite (finite : x.isFinite = true) : x.isNaN = false := by
  unfold isNaN
  rw [Bool.and_eq_false_iff, decide_eq_false_iff_not]
  exact .inl (of_decide_eq_true finite)

theorem isInfinite_of_isFinite (finite : x.isFinite = true) : x.isInfinite = false := by
  unfold isInfinite
  rw [Bool.and_eq_false_iff, decide_eq_false_iff_not]
  exact .inl (of_decide_eq_true finite)

theorem ofFields_fields (x : Binary64) : ofFields x.negative x.fields = x := by
  have word := bits_eq x
  rw [Nat.add_assoc] at word
  unfold ofFields fields
  rw [← word]
  exact congrArg Binary64.mk (UInt64.ofNat_toNat)

/-- The fields are the significand on top of the exponent, since the hidden bit carries. -/
theorem fields_eq (x : Binary64) : x.fields = x.unitExponent * hiddenBit + x.significand := by
  unfold fields unitExponent significand
  split
  · rename_i subnormal
    rw [subnormal]
  · obtain ⟨e, normal⟩ := Nat.exists_eq_succ_of_ne_zero ‹x.exponentField ≠ 0›
    rw [normal, Nat.succ_mul, Nat.succ_sub_one]
    omega

/-- An integer of 64 bits, signed or not, has a finite nearest number. -/
theorem isFinite_ofInt {n : Int} (low : Int64.minValue.toInt ≤ n)
    (high : n < Int.ofNat UInt64.size) : (ofInt n).isFinite = true := by
  have bits : n.natAbs < 2 ^ 64 := by
    have least : Int64.minValue.toInt = -9223372036854775808 := by decide
    have size : Int.ofNat UInt64.size = 18446744073709551616 := by decide
    omega
  apply isFinite_ofFields
  rcases Nat.eq_zero_or_pos n.natAbs with zero | pos
  · rw [zero, ratioFields_zero]
    decide
  · exact (ratioFields_one pos bits).2

end LiveConfig.Binary64
