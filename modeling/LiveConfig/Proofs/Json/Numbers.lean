import Mathlib.Data.List.Basic
import LiveConfig.Json.Reader
import LiveConfig.Json.Writer
import LiveConfig.Proofs.Binary64.Shortest

/-! Numbers in JSON text.

The text of a finite number has a point, with a digit on either side, and the decimal that it spells
is near to the number, so reading rounds it to the number again. -/
namespace LiveConfig.Json

/-- What may follow a number: no character that would belong to it. -/
def Ends (rest : List Char) : Prop :=
  ∀ c ∈ rest.head?, c.isDigit = false ∧ c ≠ '.' ∧ c ≠ 'e' ∧ c ≠ 'E'

theorem ends_cons {c : Char} {rest : List Char} (other : c.isDigit = false)
    (letter : c ≠ '.' ∧ c ≠ 'e' ∧ c ≠ 'E') : Ends (c :: rest) := by
  intro d head
  cases head
  exact ⟨other, letter⟩

theorem spanDigits_append {ds rest : List Char} (digits : ∀ c ∈ ds, c.isDigit = true)
    (stops : ∀ c ∈ rest.head?, c.isDigit = false) :
    Decimal.spanDigits (ds ++ rest) = (ds, rest) := by
  have none : rest.takeWhile Char.isDigit = [] ∧ rest.dropWhile Char.isDigit = rest := by
    cases rest with
    | nil => exact ⟨rfl, rfl⟩
    | cons c rest =>
      have other := stops c rfl
      have stop : ¬ c.isDigit = true := by simp [other]
      exact ⟨List.takeWhile_cons_of_neg stop, List.dropWhile_cons_of_neg stop⟩
  unfold Decimal.spanDigits
  rw [List.takeWhile_append_of_pos digits, List.dropWhile_append_of_pos digits, none.1, none.2,
    List.append_nil]

theorem readFraction_of_ends {rest : List Char} (ends : Ends rest) :
    readFraction rest = some ([], rest) := by
  cases rest with
  | nil => rfl
  | cons c rest =>
    rw [readFraction]
    intro more same
    cases same
    exact (ends '.' rfl).2.1 rfl

theorem readExponent_of_ends {rest : List Char} (ends : Ends rest) :
    readExponent rest = some (none, rest) := by
  cases rest with
  | nil => rfl
  | cons c rest =>
    obtain ⟨_, _, small, capital⟩ := ends c rfl
    simp [readExponent, small, capital]

/-- A run of digits as the whole part of a number is written. -/
structure Whole (ds : List Char) : Prop where
  digits : ∀ c ∈ ds, c.isDigit = true
  nonempty : ds ≠ []
  canonical : ds.head? = some '0' → ds.length = 1

theorem Whole.not_padded {ds : List Char} (whole : Whole ds) :
    (ds.isEmpty || ds.head? = some '0' && 1 < ds.length) = false := by
  rw [Bool.or_eq_false_iff, List.isEmpty_eq_false_iff, Bool.and_eq_false_iff]
  refine ⟨whole.nonempty, ?_⟩
  rw [decide_eq_false_iff_not, decide_eq_false_iff_not]
  by_cases zero : ds.head? = some '0'
  · have single := whole.canonical zero
    exact .inr (by omega)
  · exact .inl zero

/-- Digits that are read as a value behind their sign, whatever follows them. -/
structure Numeral (negative : Bool) (ds : List Char) (j : Json) : Prop where
  starts : ∃ c rest, ds = c :: rest ∧ c.isDigit = true
  read : ∀ rest, Ends rest → readNumber negative (ds ++ rest) = some (j, rest)

theorem Whole.starts {ds : List Char} (whole : Whole ds) (more : List Char) :
    ∃ c rest, ds ++ more = c :: rest ∧ c.isDigit = true := by
  obtain ⟨c, rest, rfl⟩ := List.exists_cons_of_ne_nil whole.nonempty
  exact ⟨c, rest ++ more, rfl, whole.digits c List.mem_cons_self⟩

theorem numeral_whole {ds : List Char} (whole : Whole ds) {negative : Bool} {j : Json}
    (literal : integerLiteral negative (Decimal.value ds) = some j) : Numeral negative ds j where
  starts := by simpa using whole.starts []
  read := by
    intro rest ends
    unfold readNumber
    rw [spanDigits_append whole.digits fun c head => (ends c head).1]
    simp [whole.not_padded, readFraction_of_ends ends, readExponent_of_ends ends, literal]

theorem numeral_point {ds part : List Char} (whole : Whole ds)
    (digits : ∀ c ∈ part, c.isDigit = true) (nonempty : part ≠ []) {negative : Bool}
    {x : Binary64} (finite : x.isFinite = true)
    (spelled : Binary64.ofDecimal negative (Decimal.value (ds ++ part)) (-part.length) = x) :
    Numeral negative (ds ++ '.' :: part) (.number x) where
  starts := whole.starts _
  read := by
    intro rest ends
    have point : ∀ c ∈ ('.' :: (part ++ rest)).head?, c.isDigit = false := by
      rintro c ⟨⟩
      decide
    have fraction : readFraction ('.' :: (part ++ rest)) = some (part, rest) := by
      have span := spanDigits_append digits fun c head => (ends c head).1
      simp [readFraction, span, nonempty]
    unfold readNumber
    rw [List.append_assoc, List.cons_append, spanDigits_append whole.digits point]
    simp [whole.not_padded, fraction, readExponent_of_ends ends, nonempty, spelled, finite]

theorem head_toDigits {n : Nat} (zero : (Nat.toDigits 10 n).head? = some '0') : n = 0 := by
  induction n using Nat.base_induction 10 (by decide) with
  | single m small =>
    rw [Nat.toDigits_of_lt_base small] at zero
    revert zero
    revert small
    revert m
    decide
  | digit m k last pos ih =>
    rw [← Nat.toDigits_append_toDigits (by decide) pos last,
      List.head?_append_of_ne_nil _ Nat.toDigits_ne_nil] at zero
    exact absurd (ih zero) (Nat.ne_of_gt pos)

theorem whole_toDigits (n : Nat) : Whole (Nat.toDigits 10 n) where
  digits := fun _ member => Nat.isDigit_of_mem_toDigits (by decide) (by decide) member
  nonempty := Nat.toDigits_ne_nil
  canonical := by
    intro zero
    rw [head_toDigits zero]
    rfl

/-- Appended digits. -/
theorem value_append (ds es : List Char) :
    Decimal.value (ds ++ es) = 10 ^ es.length * Decimal.value ds + Decimal.value es := by
  unfold Decimal.value
  rw [Nat.ofDigitChars_append, Nat.ofDigitChars_eq_ofDigitChars_zero]

theorem value_zeros (n : Nat) : Decimal.value (List.replicate n '0') = 0 := by
  unfold Decimal.value
  rw [Nat.ofDigitChars_replicate_zero, Nat.mul_zero]

theorem toDigits_mul_pow {n : Nat} (pos : 0 < n) (k : Nat) :
    Nat.toDigits 10 (n * 10 ^ k) = Nat.toDigits 10 n ++ List.replicate k '0' := by
  induction k with
  | zero => simp
  | succ k ih =>
    have positive : 0 < n * 10 ^ k := Nat.mul_pos pos (Nat.pow_pos (by decide))
    have next : n * 10 ^ (k + 1) = 10 * (n * 10 ^ k) + 0 := by
      rw [Nat.pow_succ, Nat.add_zero, ← Nat.mul_assoc, Nat.mul_comm]
    rw [next, ← Nat.toDigits_append_toDigits (by decide) positive (by decide), ih,
      List.append_assoc, List.replicate_succ']
    rfl

theorem trailing_zeros (ds : List Char) :
    ∃ n, ds = (ds.reverse.dropWhile (· == '0')).reverse ++ List.replicate n '0' := by
  refine ⟨(ds.reverse.takeWhile (· == '0')).length, ?_⟩
  have zeros : ds.reverse.takeWhile (· == '0') =
      List.replicate (ds.reverse.takeWhile (· == '0')).length '0' := by
    rw [List.eq_replicate_iff]
    refine ⟨rfl, fun c inside => ?_⟩
    have all : (ds.reverse.takeWhile (· == '0')).all (· == '0') = true := List.all_takeWhile
    exact beq_iff_eq.mp (List.all_eq_true.mp all c inside)
  rw [← List.reverse_replicate, ← zeros, ← List.reverse_append, List.takeWhile_append_dropWhile,
    List.reverse_reverse]

/-- A decimal with digits behind the point is written as digits on either side of it, zeros at the
end left out. -/
theorem positional_behind {d : Binary64.Decimal} (pos : 0 < d.digits) (behind : d.exponent < 0) :
    ∃ whole part zeros, Whole whole ∧ (∀ c ∈ part, c.isDigit = true) ∧
      part.length + zeros = d.exponent.natAbs ∧
      Decimal.value (whole ++ part) * 10 ^ zeros = d.digits ∧
      d.positional = if part.isEmpty then String.ofList whole
        else String.ofList (whole ++ '.' :: part) := by
  unfold Binary64.Decimal.positional
  rw [if_neg (by omega)]
  extract_lets places padded whole part
  have length : padded.length = max (Nat.toDigits 10 d.digits).length (places + 1) := by
    simp only [padded, List.length_append, List.length_replicate]
    omega
  have number : Decimal.value padded = d.digits := by
    simp only [padded, value_append, value_zeros]
    simp [Decimal.value]
  have each : ∀ c ∈ padded, c.isDigit = true := by
    intro c inside
    rcases List.mem_append.mp inside with zero | digit
    · rw [List.eq_of_mem_replicate zero]
      decide
    · exact Nat.isDigit_of_mem_toDigits (by decide) (by decide) digit
  obtain ⟨zeros, trailing⟩ := trailing_zeros (padded.drop (padded.length - places))
  have parts : padded = whole ++ part ++ List.replicate zeros '0' := by
    rw [List.append_assoc, ← trailing]
    exact (List.take_append_drop _ _).symm
  refine ⟨whole, part, zeros, ⟨?_, ?_, ?_⟩, ?_, ?_, ?_, rfl⟩
  · intro c inside
    exact each c (List.mem_of_mem_take inside)
  · intro empty
    have none := congrArg List.length empty
    simp only [whole, List.length_take, List.length_nil] at none
    omega
  · intro zero
    rcases Nat.lt_or_ge places (Nat.toDigits 10 d.digits).length with long | short
    · have unpadded : padded = Nat.toDigits 10 d.digits := by
        simp only [padded, Nat.sub_eq_zero_of_le long, List.replicate_zero, List.nil_append]
      have first : (Nat.toDigits 10 d.digits).head? = some '0' := by
        rw [← unpadded]
        rw [List.head?_take, if_neg (by omega)] at zero
        exact zero
      exact absurd (head_toDigits first) (Nat.ne_of_gt pos)
    · simp only [whole, List.length_take]
      omega
  · intro c inside
    apply each c
    rw [parts]
    simp [inside]
  · have rest : (padded.drop (padded.length - places)).length = places := by
      rw [List.length_drop]
      omega
    rw [trailing, List.length_append, List.length_replicate] at rest
    exact rest
  · rw [← number, parts, value_append (whole ++ part), value_zeros, List.length_replicate,
      Nat.add_zero, Nat.mul_comm]

/-- An integer in front of the point is written without padding. -/
theorem positional_front {d : Binary64.Decimal} (pos : 0 < d.digits) (front : 0 ≤ d.exponent) :
    d.positional = String.ofList (Nat.toDigits 10 d.numerator) := by
  unfold Binary64.Decimal.positional Binary64.Decimal.numerator
  rw [if_pos front, toDigits_mul_pow pos, show d.exponent.toNat = d.exponent.natAbs by omega]

open Binary64 in
/-- Digits that are as near to a number as its shortest decimal are read as this number. -/
theorem ofDecimal_of_near {x : Binary64} {num den digits places : Nat} (near : x.Near num den)
    (positive : 0 < den) (finite : x.isFinite = true) (pos : 0 < digits) (some : 0 < places)
    (few : places ≤ 343) (same : digits * den = num * 10 ^ places) :
    ofDecimal x.negative digits (-places) = x := by
  have tens : 0 < 10 ^ places := Nat.pow_pos (by decide)
  have fields : ratioFields digits (10 ^ places) = x.fields := by
    rw [← near.rounds positive finite, ← ratioFields_mul_left positive digits,
      Nat.mul_comm den digits, same, Nat.mul_comm num, Nat.mul_comm den,
      ratioFields_mul_left tens]
  have reach : (-(places : Int)).natAbs = places := by omega
  unfold ofDecimal decimalReach
  rw [if_neg (Nat.ne_of_gt pos), if_neg (by omega), if_neg (by omega), if_pos (by omega), reach]
  show ofRatio x.negative digits (10 ^ places) = x
  rw [ofRatio, fields, ofFields_fields]

section Finite

variable {x : Binary64}

theorem isDigit_zero : ∀ c ∈ ['0'], c.isDigit = true := List.forall_mem_singleton.mpr rfl

theorem numeral_of_isIntegral (finite : x.isFinite = true) (positive : 0 < x.significand)
    (integral : x.isIntegral = true) :
    Numeral x.negative (x.shortest.positional.toList ++ ['.', '0']) (.number x) := by
  have front := Binary64.shortest_of_isIntegral positive integral
  obtain ⟨near, _⟩ := Binary64.shortest_spec positive
  have unit : x.shortest.denominator = 1 := by
    rw [Binary64.Decimal.denominator, show (-x.shortest.exponent).toNat = 0 by omega, Nat.pow_zero]
  rw [unit] at near
  have pos := near.pos Nat.one_pos positive
  have value : Decimal.value (Nat.toDigits 10 x.shortest.numerator ++ ['0']) =
      x.shortest.numerator * 10 ^ 1 := by
    have zero : Decimal.value ['0'] = 0 := value_zeros 1
    rw [value_append, zero, Nat.add_zero, Nat.mul_comm]
    simp [Decimal.value]
  have digits : 0 < x.shortest.digits := Nat.pos_of_mul_pos_right pos
  rw [positional_front digits front, String.toList_ofList]
  refine numeral_point (whole_toDigits _) isDigit_zero (List.cons_ne_nil _ _) finite ?_
  rw [value]
  exact ofDecimal_of_near near Nat.one_pos finite (by omega) Nat.one_pos (by decide)
    (Nat.mul_one _)

theorem numeral_of_not_isIntegral (finite : x.isFinite = true) (positive : 0 < x.significand)
    (broken : x.isIntegral = false) :
    Numeral x.negative x.shortest.positional.toList (.number x) := by
  obtain ⟨near, least⟩ := Binary64.shortest_spec positive
  have scale : 0 < x.shortest.denominator := Nat.pow_pos (by decide)
  -- an integer that is near would be the number
  have apart (n : Nat) (same : x.shortest.numerator = n * x.shortest.denominator) : False := by
    rw [same] at near
    rw [near.isIntegral scale finite] at broken
    cases broken
  have pos : 0 < x.shortest.digits := Nat.pos_of_mul_pos_right (near.pos scale positive)
  have behind : x.shortest.exponent < 0 := by
    rcases Int.lt_or_le x.shortest.exponent 0 with behind | front
    · exact behind
    · have unit : x.shortest.denominator = 1 := by
        rw [Binary64.Decimal.denominator, show (-x.shortest.exponent).toNat = 0 by omega,
          Nat.pow_zero]
      exact (apart x.shortest.numerator (by rw [unit, Nat.mul_one])).elim
  have numerator : x.shortest.numerator = x.shortest.digits := by
    rw [Binary64.Decimal.numerator, show x.shortest.exponent.toNat = 0 by omega, Nat.pow_zero,
      Nat.mul_one]
  have denominator : x.shortest.denominator = 10 ^ x.shortest.exponent.natAbs := by
    rw [Binary64.Decimal.denominator,
      show (-x.shortest.exponent).toNat = x.shortest.exponent.natAbs by omega]
  obtain ⟨whole, part, zeros, canonical, digits, places, value, text⟩ :=
    positional_behind pos behind
  have some : part ≠ [] := by
    rintro rfl
    rw [List.append_nil] at value
    refine apart (Decimal.value whole) ?_
    rw [numerator, denominator, ← value, ← places, List.length_nil, Nat.zero_add]
  rw [text, if_neg (by simpa using some), String.toList_ofList]
  refine numeral_point canonical digits some finite ?_
  refine ofDecimal_of_near near scale finite ?_ (List.length_pos_iff.mpr some) (by omega) ?_
  · exact Nat.pos_of_mul_pos_right (value.symm ▸ pos)
  · rw [numerator, denominator, ← value, ← places, Nat.pow_add, Nat.mul_right_comm, Nat.mul_assoc]

theorem numeral_zero (nothing : x.magnitude = 0) :
    Numeral x.negative ['0', '.', '0'] (.number x) := by
  have zero := Binary64.eq_zero_of_magnitude nothing
  have finite : x.isFinite = true := by
    rw [zero]
    cases x.negative with
    | true => decide
    | false => decide
  exact numeral_point (whole_toDigits 0) isDigit_zero (List.cons_ne_nil _ _) finite zero.symm

/-- A finite number is read from its text. -/
theorem numeral_writeNumber (finite : x.isFinite = true) :
    ∃ ds, (writeNumber x).toList = (if x.negative then ['-'] else []) ++ ds ∧
      Numeral x.negative ds (.number x) := by
  have number := Binary64.isNaN_of_isFinite finite
  have bounded := Binary64.isInfinite_of_isFinite finite
  have sign : (if x.negative then "-" else "").toList = if x.negative then ['-'] else [] := by
    split
    · rfl
    · rfl
  by_cases nothing : x.magnitude = 0
  · have integral : x.isIntegral = true := by simp [Binary64.isIntegral, finite, nothing]
    refine ⟨_, ?_, numeral_zero nothing⟩
    simp [writeNumber, finite, integral, Binary64.text, number, bounded, nothing, sign]
  · have positive : 0 < x.significand := by
      apply Nat.pos_of_ne_zero
      intro zero
      exact nothing (by rw [Binary64.magnitude, zero, Nat.zero_shiftLeft])
    by_cases integral : x.isIntegral = true
    · refine ⟨_, ?_, numeral_of_isIntegral finite positive integral⟩
      simp [writeNumber, finite, integral, Binary64.text, number, bounded, nothing, sign]
    · refine ⟨_, ?_, numeral_of_not_isIntegral finite positive (by simpa using integral)⟩
      simp [writeNumber, finite, integral, Binary64.text, number, bounded, nothing, sign]

end Finite

end LiveConfig.Json
