import LiveConfig.Binary64.Basic

/-! The shortest decimal text of a binary64 number.

Of all decimals that round to the number, the ones with the fewest significant digits are kept, and
of those the nearest. The reals that round to a number form an interval around it, closed when its
significand is even; `n` digits suffice exactly when one of the two neighbours on the grid of `n`
digit decimals lies in that interval, and seventeen always do. The text is positional for every
magnitude: no exponent is ever written. -/
namespace LiveConfig.Binary64

/-- The reals that round to a positive number, over the common denominator `den`. -/
structure Interval where
  low : Nat
  value : Nat
  high : Nat
  den : Nat
  closed : Bool

/-- Below a power of two the grid is twice as fine, except where subnormals begin. -/
def roundingInterval (x : Binary64) : Interval :=
  let m := x.significand
  let step := 1 <<< x.unitExponent
  let below := if m = hiddenBit && 0 < x.unitExponent then 1 else 2
  { low := (4 * m - below) * step
    value := 4 * m * step
    high := (4 * m + 2) * step
    den := 4 * unitsOfOne
    closed := m % 2 = 0 }

/-- Whether `num / (den of the interval * scale)` lies in the interval. -/
def Interval.contains (i : Interval) (num scale : Nat) : Bool :=
  if i.closed then i.low * scale ≤ num && num ≤ i.high * scale
  else i.low * scale < num && num < i.high * scale

/-- Digits `digits` (as one integer) scaled by `10 ^ exponent`. -/
structure Decimal where
  digits : Nat
  exponent : Int
deriving DecidableEq, Inhabited

/-- The neighbour of the value on the grid `10 ^ k` that lies in the interval, the nearer of two;
an exact half goes to the even one. -/
def Interval.onGrid (i : Interval) (k : Int) : Option Nat :=
  let scale := if k < 0 then Nat.pow 10 k.natAbs else 1
  let step := i.den * if k < 0 then 1 else Nat.pow 10 k.natAbs
  let d := i.value * scale / step
  let down := i.contains (d * step) scale
  let up := i.contains ((d + 1) * step) scale
  let gap := 2 * (i.value * scale - d * step)
  if down && up then
    if gap < step || gap = step && d % 2 = 0 then some d else some (d + 1)
  else if down then some d
  else if up then some (d + 1)
  else none

/-- Tries grids from coarse to fine. -/
def Interval.search (i : Interval) : Nat → Int → Decimal
  | 0, k => ⟨i.value * Nat.pow 10 k.natAbs / i.den, k⟩
  | n + 1, k =>
    match i.onGrid k with
    | some d => ⟨d, k⟩
    | none => i.search n (k - 1)

/-- Decimal exponent of the leading digit of `num / den`, found from the binary length. -/
def leadingExponent (num den : Nat) : Int :=
  let guess : Int := ((num.log2 : Int) - (den.log2 : Int)) * 30103 / 100000 - 2
  let atLeast (e : Int) : Bool :=
    if e < 0 then den ≤ num * Nat.pow 10 e.natAbs else den * Nat.pow 10 e.natAbs ≤ num
  if atLeast (guess + 3) then guess + 3
  else if atLeast (guess + 2) then guess + 2
  else if atLeast (guess + 1) then guess + 1
  else guess

/-- Shortest decimal of a finite, nonzero magnitude. -/
def shortest (x : Binary64) : Decimal :=
  let i := x.roundingInterval
  i.search 18 (leadingExponent i.value i.den)

/-- Positional text of a decimal. -/
def Decimal.positional (d : Decimal) : String :=
  let digits := Nat.toDigits 10 d.digits
  if 0 ≤ d.exponent then
    String.ofList (digits ++ List.replicate d.exponent.natAbs '0')
  else
    let places := d.exponent.natAbs
    let padded := List.replicate (places + 1 - digits.length) '0' ++ digits
    let whole := padded.take (padded.length - places)
    let part := (padded.drop (padded.length - places)).reverse.dropWhile (· == '0') |>.reverse
    if part.isEmpty then String.ofList whole else String.ofList (whole ++ '.' :: part)

/-- Text of any number: `NaN`, `inf`, or the shortest positional decimal, with the sign of zero. -/
def text (x : Binary64) : String :=
  if x.isNaN then "NaN"
  else
    let sign := if x.negative then "-" else ""
    if x.isInfinite then sign ++ "inf"
    else if x.magnitude = 0 then sign ++ "0"
    else sign ++ x.shortest.positional

def isIntegral (x : Binary64) : Bool := x.isFinite && x.magnitude % unitsOfOne = 0

def wholePart (x : Binary64) : Nat := x.magnitude / unitsOfOne

end LiveConfig.Binary64
