/-! Binary64 floating-point numbers as words, with exact integer meaning.

A finite number is an integer count of the smallest positive subnormal, `2 ^ -1074`. `units` gives
that count and continues it to the infinities, whose fields read as a power of two above every
finite count, so one integer order serves all numbers that are not NaN. Equality and order are those
of IEEE 754: NaN is unequal to and unordered with everything, and the two zeros are equal. Nothing
here assumes anything about the host's floating-point unit. -/
namespace LiveConfig

structure Binary64 where
  bits : UInt64
deriving DecidableEq, Inhabited

namespace Binary64

/-- The topmost bit, which is the sign. -/
def signBit : Nat := 1 <<< 63

/-- The bit above the fraction: the lowest of the exponent field, and the one that a significand
has hidden. -/
def hiddenBit : Nat := 1 <<< 52

/-- The number one, in smallest subnormals. -/
def unitsOfOne : Nat := 1 <<< 1074

def negative (x : Binary64) : Bool := signBit ≤ x.bits.toNat

def exponentField (x : Binary64) : Nat := x.bits.toNat / hiddenBit % 2048

def fractionField (x : Binary64) : Nat := x.bits.toNat % hiddenBit

def isNaN (x : Binary64) : Bool := x.exponentField = 2047 && x.fractionField ≠ 0

def isInfinite (x : Binary64) : Bool := x.exponentField = 2047 && x.fractionField = 0

def isFinite (x : Binary64) : Bool := x.exponentField ≠ 2047

/-- Significand with the hidden bit that every number but a subnormal has. -/
def significand (x : Binary64) : Nat :=
  if x.exponentField = 0 then x.fractionField else x.fractionField + hiddenBit

/-- The power of two by which the significand counts smallest subnormals. -/
def unitExponent (x : Binary64) : Nat := x.exponentField - 1

/-- Absolute value in smallest subnormals. -/
def magnitude (x : Binary64) : Nat := x.significand <<< x.unitExponent

/-- Signed value in smallest subnormals. -/
def units (x : Binary64) : Int := if x.negative then -(x.magnitude : Int) else x.magnitude

/-- The number with the given sign whose remaining 63 bits are `rest`. -/
def ofFields (negative : Bool) (rest : Nat) : Binary64 :=
  ⟨UInt64.ofNat ((if negative then signBit else 0) + rest)⟩

/-- The 63 bits below the sign of an infinity. -/
def infinityFields : Nat := 2047 * hiddenBit

def infinity (negative : Bool) : Binary64 := ofFields negative infinityFields

def nan : Binary64 := ofFields false (infinityFields + hiddenBit / 2)

def zero (negative : Bool) : Binary64 := ofFields negative 0

/-- Numbers are ordered by value; NaN has no place in the order. -/
def compare? (x y : Binary64) : Option Ordering :=
  if x.isNaN || y.isNaN then none else some (compare x.units y.units)

instance : BEq Binary64 := ⟨fun x y => !x.isNaN && !y.isNaN && x.units == y.units⟩

theorem beq_eq (x y : Binary64) : (x == y) = (!x.isNaN && !y.isNaN && x.units == y.units) := rfl

theorem beq_self (x : Binary64) : (x == x) = !x.isNaN := by simp [beq_eq]

theorem beq_comm (x y : Binary64) : (x == y) = (y == x) := by
  simp only [beq_eq]
  rw [Bool.and_comm (!x.isNaN)]
  congr 1
  exact Bool.beq_comm

end Binary64
end LiveConfig
