import LiveConfig.Binary64.Basic

/-! Correct rounding of exact quotients to binary64.

Every operation that leaves the grid of binary64 numbers goes through `ofRatio`: the exact value is
a quotient of naturals, the grid step is the smallest that leaves at most 53 significant bits, and
the nearest multiple of that step is taken, an exact half going to the even multiple. Magnitudes
from half a step above the largest finite number on become infinite. -/
namespace LiveConfig.Binary64

/-- Nearest integer to `a / d`, a half going to the even neighbour. -/
def nearestEven (a d : Nat) : Nat :=
  let q := a / d
  let r := a % d
  if 2 * r < d then q
  else if d < 2 * r then q + 1
  else if q % 2 = 0 then q
  else q + 1

/-- The grid step for the magnitude `a / d`, as the power of two of its smallest subnormals. -/
def stepExponent (a d : Nat) : Nat := (a / d).log2 - 52

/-- Fields of the magnitude nearest `num / den`. Adding the significand to the step's exponent
carries into the exponent field both the hidden bit and a significand that rounds up to `2 ^ 53`. -/
def ratioFields (num den : Nat) : Nat :=
  let a := num * unitsOfOne
  let p := stepExponent a den
  min (p * hiddenBit + nearestEven a (den <<< p)) infinityFields

/-- The number nearest `±num / den`. -/
def ofRatio (negative : Bool) (num den : Nat) : Binary64 := ofFields negative (ratioFields num den)

def ofNat (n : Nat) : Binary64 := ofRatio false n 1

def ofInt (n : Int) : Binary64 := ofRatio (n < 0) n.natAbs 1

/-- IEEE 754 division. -/
def div (x y : Binary64) : Binary64 :=
  let negative := x.negative != y.negative
  if x.isNaN || y.isNaN then nan
  else if x.isInfinite then if y.isInfinite then nan else infinity negative
  else if y.isInfinite then zero negative
  else if y.magnitude = 0 then if x.magnitude = 0 then nan else infinity negative
  else ofRatio negative x.magnitude y.magnitude

instance : Div Binary64 := ⟨div⟩

end LiveConfig.Binary64
