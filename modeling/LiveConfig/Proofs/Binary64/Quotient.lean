import Mathlib.Algebra.Group.Nat.Defs
import LiveConfig.Binary64.Rounding

/-! Quotients of naturals as binary64.

A number of at most 53 bits over a power of two is exact, so a 32-bit word over their number lies in
the unit interval, from which one is left out. A number that fits 64 bits is finite, divided by
itself it is exactly one, and zero divided by it is zero. -/
namespace LiveConfig.Binary64

/-- The fields of the number one. -/
def oneFields : Nat := 1023 * hiddenBit

theorem hiddenBit_eq : hiddenBit = 4503599627370496 := by decide

theorem infinityFields_eq : infinityFields = 2047 * 4503599627370496 := by decide

theorem mul_unitsOfOne (n : Nat) : n * unitsOfOne = n <<< 1074 := by
  unfold unitsOfOne
  rw [Nat.one_shiftLeft, Nat.shiftLeft_eq]

theorem shiftLeft_lt {n m : Nat} (less : n < m) (k : Nat) : n <<< k < m <<< k := by
  rw [Nat.shiftLeft_eq, Nat.shiftLeft_eq]
  exact Nat.mul_lt_mul_of_pos_right less (Nat.two_pow_pos k)

theorem shiftLeft_pos {n : Nat} (pos : 0 < n) (k : Nat) : 0 < n <<< k :=
  Nat.zero_lt_of_lt (shiftLeft_lt pos k)

theorem log2_shiftLeft {n : Nat} (pos : 0 < n) (k : Nat) : (n <<< k).log2 = n.log2 + k := by
  induction k with
  | zero => rfl
  | succ k ih =>
    have positive : n <<< k ≠ 0 := Nat.ne_of_gt (shiftLeft_pos pos k)
    rw [Nat.shiftLeft_succ, Nat.log2_two_mul positive, ih]
    rfl

section Fields

variable {b : Bool} {f : Nat}

theorem signBit_eq : signBit = 2048 * 4503599627370496 := by decide

theorem bits_ofFields (inside : f ≤ infinityFields) :
    (ofFields b f).bits.toNat = (if b then signBit else 0) + f := by
  have bound : signBit + infinityFields < UInt64.size := by decide
  unfold ofFields
  rw [UInt64.toNat_ofNat_of_lt']
  split
  · omega
  · omega

theorem negative_ofFields (inside : f ≤ infinityFields) : (ofFields b f).negative = b := by
  have bound : infinityFields < signBit := by decide
  unfold negative
  rw [bits_ofFields inside]
  cases b with
  | true => simp
  | false =>
    simp only [Bool.false_eq_true, if_false, decide_eq_false_iff_not]
    omega

theorem exponentField_ofFields (inside : f ≤ infinityFields) :
    (ofFields b f).exponentField = f / hiddenBit := by
  unfold exponentField
  rw [bits_ofFields inside, hiddenBit_eq, signBit_eq]
  rw [infinityFields_eq] at inside
  split
  · omega
  · omega

theorem fractionField_ofFields (inside : f ≤ infinityFields) :
    (ofFields b f).fractionField = f % hiddenBit := by
  unfold fractionField
  rw [bits_ofFields inside, hiddenBit_eq, signBit_eq]
  split
  · omega
  · omega

theorem isNaN_ofFields (inside : f ≤ infinityFields) : (ofFields b f).isNaN = false := by
  unfold isNaN
  rw [exponentField_ofFields inside, fractionField_ofFields inside, hiddenBit_eq]
  rw [infinityFields_eq] at inside
  simp only [Bool.and_eq_false_iff, decide_eq_false_iff_not]
  omega

theorem isFinite_ofFields (finite : f < infinityFields) : (ofFields b f).isFinite = true := by
  unfold isFinite
  rw [exponentField_ofFields (Nat.le_of_lt finite), hiddenBit_eq]
  rw [infinityFields_eq] at finite
  simp only [ne_eq, decide_eq_true_eq]
  omega

theorem isInfinite_ofFields (finite : f < infinityFields) :
    (ofFields b f).isInfinite = false := by
  have apart := isFinite_ofFields (b := b) finite
  unfold isFinite at apart
  unfold isInfinite
  rw [Bool.and_eq_false_iff, decide_eq_false_iff_not]
  exact .inl (of_decide_eq_true apart)

theorem magnitude_ofFields (inside : f ≤ infinityFields) : (ofFields b f).magnitude =
    (if f / hiddenBit = 0 then f % hiddenBit else f % hiddenBit + hiddenBit) *
      2 ^ (f / hiddenBit - 1) := by
  unfold magnitude significand unitExponent
  rw [exponentField_ofFields inside, fractionField_ofFields inside, Nat.shiftLeft_eq]

/-- A full significand at an exponent. -/
theorem magnitude_ofFields_add {p s : Nat} (full : hiddenBit ≤ s) (fits : s < 2 * hiddenBit)
    (inside : p * hiddenBit + s ≤ infinityFields) :
    (ofFields b (p * hiddenBit + s)).magnitude = s * 2 ^ p := by
  have hidden : 0 < hiddenBit := by decide
  have fields : p * hiddenBit + s = s - hiddenBit + hiddenBit * (p + 1) := by
    rw [Nat.mul_succ, Nat.mul_comm hiddenBit p]
    omega
  have exponent : (p * hiddenBit + s) / hiddenBit = p + 1 := by
    rw [fields, Nat.add_mul_div_left _ _ hidden, Nat.div_eq_of_lt (by omega), Nat.zero_add]
  have fraction : (p * hiddenBit + s) % hiddenBit = s - hiddenBit := by
    rw [fields, Nat.add_mul_mod_self_left, Nat.mod_eq_of_lt (by omega)]
  rw [magnitude_ofFields inside, exponent, fraction, if_neg (Nat.succ_ne_zero p),
    Nat.sub_add_cancel full, Nat.add_sub_cancel]

theorem magnitude_ofFields_pos (pos : 0 < f) (inside : f ≤ infinityFields) :
    0 < (ofFields b f).magnitude := by
  have hidden : 0 < hiddenBit := by decide
  rw [magnitude_ofFields inside]
  apply Nat.mul_pos _ (Nat.two_pow_pos _)
  split
  next subnormal =>
    have split := Nat.div_add_mod f hiddenBit
    rw [subnormal, Nat.mul_zero] at split
    omega
  next => omega

end Fields

section Rounding

theorem nearestEven_le (a d : Nat) : nearestEven a d ≤ a / d + 1 := by
  unfold nearestEven
  simp only
  split
  · omega
  · split
    · omega
    · split <;> omega

/-- A multiple is its own nearest multiple. -/
theorem nearestEven_mul (q : Nat) {d : Nat} (pos : 0 < d) : nearestEven (q * d) d = q := by
  unfold nearestEven
  simp only [Nat.mul_mod_left, Nat.mul_div_cancel q pos, Nat.mul_zero]
  rw [if_pos pos]

/-- The step leaves at most 53 bits. -/
theorem nearestEven_step_le (a den : Nat) :
    nearestEven a (den <<< stepExponent a den) ≤ 2 ^ 53 := by
  have rounded := nearestEven_le a (den <<< stepExponent a den)
  have short : a / (den <<< stepExponent a den) < 2 ^ 53 := by
    rw [Nat.shiftLeft_eq, ← Nat.div_div_eq_div_mul, Nat.div_lt_iff_lt_mul (Nat.two_pow_pos _),
      ← Nat.pow_add]
    calc a / den < 2 ^ ((a / den).log2 + 1) := Nat.lt_log2_self
      _ ≤ 2 ^ (53 + stepExponent a den) :=
          Nat.pow_le_pow_right (by decide) (by unfold stepExponent; omega)
  omega

theorem ratioFields_le_infinity (num den : Nat) : ratioFields num den ≤ infinityFields := by
  unfold ratioFields
  exact Nat.min_le_right _ _

/-- The step exponent of a quotient bounds its fields. -/
theorem ratioFields_le (num den : Nat) : ratioFields num den ≤
    (stepExponent (num * unitsOfOne) den + 2) * hiddenBit := by
  have short := nearestEven_step_le (num * unitsOfOne) den
  have two : (2 : Nat) ^ 53 = 2 * hiddenBit := by decide
  unfold ratioFields
  simp only
  rw [Nat.add_mul]
  omega

/-- The step of a positive integer. -/
theorem stepExponent_one {n : Nat} (pos : 0 < n) :
    stepExponent (n * unitsOfOne) 1 = n.log2 + 1022 := by
  unfold stepExponent
  rw [Nat.div_one, mul_unitsOfOne, log2_shiftLeft pos]
  omega

/-- A positive integer that fits 64 bits is neither zero nor infinite. -/
theorem ratioFields_one {n : Nat} (pos : 0 < n) (fits : n < 2 ^ 64) :
    0 < ratioFields n 1 ∧ ratioFields n 1 < infinityFields := by
  have bits : n.log2 < 64 := (Nat.log2_lt (Nat.ne_of_gt pos)).mpr fits
  constructor
  · unfold ratioFields
    simp only
    rw [stepExponent_one pos, hiddenBit_eq, infinityFields_eq]
    omega
  · have fields := ratioFields_le n 1
    rw [stepExponent_one pos, hiddenBit_eq] at fields
    rw [infinityFields_eq]
    omega

theorem ratioFields_zero (den : Nat) : ratioFields 0 den = 0 := by
  unfold ratioFields stepExponent nearestEven
  simp

/-- A number divided by itself. -/
theorem ratioFields_self {m : Nat} (pos : 0 < m) : ratioFields m m = oneFields := by
  have quotient : m * unitsOfOne / m = unitsOfOne := Nat.mul_div_cancel_left unitsOfOne pos
  have bits : unitsOfOne.log2 = 1074 := by decide +kernel
  have split : m * unitsOfOne = hiddenBit * (m <<< 1022) :=
    calc m * unitsOfOne = m <<< (1022 + 52) := mul_unitsOfOne m
      _ = (m <<< 1022) <<< 52 := Nat.shiftLeft_add m 1022 52
      _ = (m <<< 1022) * hiddenBit := Nat.shiftLeft_eq _ 52
      _ = hiddenBit * (m <<< 1022) := Nat.mul_comm _ _
  have shifted : 0 < m <<< 1022 := shiftLeft_pos pos 1022
  unfold ratioFields stepExponent
  simp only [quotient, bits, Nat.reduceSub]
  rw [split, nearestEven_mul hiddenBit shifted]
  decide

/-- A number of at most 53 bits, shifted until it has the hidden bit. -/
theorem normalized_bounds {h : Nat} (pos : 0 < h) (short : h.log2 ≤ 52) :
    hiddenBit ≤ h <<< (52 - h.log2) ∧ h <<< (52 - h.log2) < 2 * hiddenBit := by
  have hidden : hiddenBit = 2 ^ h.log2 * 2 ^ (52 - h.log2) := by
    rw [← Nat.pow_add, Nat.add_sub_cancel' short]
    decide
  rw [Nat.shiftLeft_eq, hidden]
  constructor
  · exact Nat.mul_le_mul_right _ (Nat.log2_self_le (Nat.ne_of_gt pos))
  · rw [← Nat.mul_assoc, ← Nat.pow_succ']
    exact Nat.mul_lt_mul_of_pos_right Nat.lt_log2_self (Nat.two_pow_pos _)

/-- A number of at most 53 bits over a power of two is exact: its bits are the topmost of the
significand. -/
theorem ratioFields_dyadic {h k : Nat} (pos : 0 < h) (short : h.log2 ≤ 52) (small : k ≤ 1022) :
    ratioFields h (2 ^ k) =
      min ((h.log2 + 1022 - k) * hiddenBit + h <<< (52 - h.log2)) infinityFields := by
  have quotient : h * unitsOfOne / 2 ^ k = h <<< (1074 - k) := by
    have exponents : 1074 = 1074 - k + k := by omega
    have product : h * unitsOfOne = h <<< (1074 - k) * 2 ^ k := by
      rw [← Nat.shiftLeft_eq, ← Nat.shiftLeft_add, ← exponents, mul_unitsOfOne]
    rw [product, Nat.mul_div_cancel _ (Nat.two_pow_pos k)]
  have step : stepExponent (h * unitsOfOne) (2 ^ k) = h.log2 + 1022 - k := by
    unfold stepExponent
    rw [quotient, log2_shiftLeft pos]
    omega
  have split : h * unitsOfOne = h <<< (52 - h.log2) * (2 ^ k) <<< (h.log2 + 1022 - k) := by
    have exponents : 1074 = 52 - h.log2 + (k + (h.log2 + 1022 - k)) := by omega
    rw [mul_unitsOfOne, exponents, Nat.shiftLeft_add, Nat.shiftLeft_eq _ (k + _), Nat.pow_add,
      Nat.shiftLeft_eq (2 ^ k)]
  have divisor : 0 < (2 ^ k) <<< (h.log2 + 1022 - k) := shiftLeft_pos (Nat.two_pow_pos k) _
  unfold ratioFields
  simp only
  rw [step, split, nearestEven_mul _ divisor]

end Rounding

section Numbers

theorem compare?_of_numbers {x y : Binary64} (first : x.isNaN = false) (second : y.isNaN = false) :
    x.compare? y = some (compare x.units y.units) := by
  unfold compare?
  rw [first, second, Bool.or_self, if_neg Bool.false_ne_true]

theorem units_ofFields {f : Nat} (inside : f ≤ infinityFields) :
    (ofFields false f).units = (ofFields false f).magnitude := by
  unfold units
  rw [negative_ofFields inside]
  rfl

theorem units_one : (ofFields false oneFields).units = unitsOfOne := by decide +kernel

theorem units_zero : (ofFields false 0).units = 0 := by decide +kernel

/-- A position in the unit interval, of which one is not part. -/
structure InUnit (x : Binary64) : Prop where
  number : x.isNaN = false
  nonneg : 0 ≤ x.units
  below : x.units < unitsOfOne

/-- A number of at most 53 bits over a power of two is exact. -/
theorem magnitude_dyadic {h k : Nat} (fits : h < 2 ^ 53) (small : k ≤ 1022) :
    (ofRatio false h (2 ^ k)).magnitude = h <<< (1074 - k) := by
  unfold ofRatio
  rcases Nat.eq_zero_or_pos h with rfl | pos
  · rw [ratioFields_zero, Nat.zero_shiftLeft]
    decide +kernel
  · have bits : h.log2 < 53 := (Nat.log2_lt (Nat.ne_of_gt pos)).mpr fits
    have fewer : h.log2 ≤ 52 := by omega
    obtain ⟨full, short⟩ := normalized_bounds pos fewer
    have finite : (h.log2 + 1022 - k) * hiddenBit + h <<< (52 - h.log2) ≤ infinityFields := by
      have exponent : (h.log2 + 1022 - k) * hiddenBit ≤ 1074 * hiddenBit :=
        Nat.mul_le_mul_right _ (by omega)
      unfold infinityFields
      omega
    have fields := ratioFields_dyadic pos fewer small
    rw [Nat.min_eq_left finite] at fields
    have exponents : 52 - h.log2 + (h.log2 + 1022 - k) = 1074 - k := by omega
    rw [fields, magnitude_ofFields_add full short finite, ← Nat.shiftLeft_eq,
      ← Nat.shiftLeft_add, exponents]

/-- A 32-bit word over their number is exact. -/
theorem magnitude_word {h : Nat} (fits : h < UInt32.size) :
    (ofRatio false h UInt32.size).magnitude = h <<< 1042 := by
  have size : UInt32.size = 2 ^ 32 := by decide
  have short : h < 2 ^ 53 := Nat.lt_trans fits (by decide)
  rw [size, magnitude_dyadic short (by decide)]

/-- An integer of at most 53 bits is exact. -/
theorem magnitude_ofNat {n : Nat} (fits : n < 2 ^ 53) : (ofNat n).magnitude = n * unitsOfOne := by
  have dyadic := magnitude_dyadic fits (Nat.zero_le 1022)
  rw [Nat.pow_zero, Nat.sub_zero] at dyadic
  rw [mul_unitsOfOne, ofNat, dyadic]

/-- A 32-bit word over their number lies in the unit interval. -/
theorem inUnit_word {h : Nat} (fits : h < UInt32.size) :
    (ofRatio false h UInt32.size).InUnit := by
  have inside := ratioFields_le_infinity h UInt32.size
  have below : h <<< 1042 < unitsOfOne := by
    have one : unitsOfOne = UInt32.size <<< 1042 := by decide +kernel
    rw [one]
    exact shiftLeft_lt fits 1042
  have magnitude := magnitude_word fits
  unfold ofRatio at magnitude ⊢
  refine ⟨isNaN_ofFields inside, ?_, ?_⟩
  · rw [units_ofFields inside]
    omega
  · rw [units_ofFields inside, magnitude]
    exact Int.ofNat_lt.mpr below

theorem isNaN_ofNat (n : Nat) : (ofNat n).isNaN = false :=
  isNaN_ofFields (ratioFields_le_infinity n 1)

theorem not_negative_ofNat (n : Nat) : (ofNat n).negative = false :=
  negative_ofFields (ratioFields_le_infinity n 1)

theorem isInfinite_ofNat {n : Nat} (fits : n < 2 ^ 64) : (ofNat n).isInfinite = false := by
  apply isInfinite_ofFields
  rcases Nat.eq_zero_or_pos n with rfl | pos
  · rw [ratioFields_zero]
    decide
  · exact (ratioFields_one pos fits).2

theorem magnitude_ofNat_pos {n : Nat} (pos : 0 < n) (fits : n < 2 ^ 64) :
    0 < (ofNat n).magnitude :=
  magnitude_ofFields_pos (ratioFields_one pos fits).1 (ratioFields_le_infinity n 1)

variable {n total : Nat}

theorem ofNat_div_ofNat (fits : n < 2 ^ 64) (pos : 0 < total) (fitsTotal : total < 2 ^ 64) :
    ofNat n / ofNat total = ofRatio false (ofNat n).magnitude (ofNat total).magnitude := by
  have positive : (ofNat total).magnitude ≠ 0 := Nat.ne_of_gt (magnitude_ofNat_pos pos fitsTotal)
  change div (ofNat n) (ofNat total) = _
  unfold div
  simp [isNaN_ofNat, isInfinite_ofNat fits, isInfinite_ofNat fitsTotal, not_negative_ofNat,
    positive]

theorem ofNat_div_self (pos : 0 < total) (fits : total < 2 ^ 64) :
    ofNat total / ofNat total = ofFields false oneFields := by
  rw [ofNat_div_ofNat fits pos fits, ofRatio, ratioFields_self (magnitude_ofNat_pos pos fits)]

theorem zero_div_ofNat (pos : 0 < total) (fits : total < 2 ^ 64) :
    ofNat 0 / ofNat total = ofFields false 0 := by
  have zero : (ofNat 0).magnitude = 0 := by decide +kernel
  rw [ofNat_div_ofNat (by decide) pos fits, zero, ofRatio, ratioFields_zero]

end Numbers
end LiveConfig.Binary64
