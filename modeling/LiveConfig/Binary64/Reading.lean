import LiveConfig.Binary64.Rounding
import LiveConfig.Text.Decimal

/-! Decimal text read as the nearest binary64 number.

`ofDecimal` rounds `± digits * 10 ^ exponent` correctly whatever the exponent: one that puts the
value beyond every finite number, or below half the smallest subnormal, is answered without
building the power of ten. `read?` accepts an optional sign followed by digits with an optional
point and exponent, or by one of the words `inf`, `infinity` and `nan` in any case. -/
namespace LiveConfig.Binary64

/-- A power of ten above every finite number, and whose inverse rounds to zero. -/
def decimalReach : Int := 400

def ofDecimal (negative : Bool) (digits : Nat) (exponent : Int) : Binary64 :=
  if digits = 0 then zero negative
  else if decimalReach < exponent then infinity negative
  else if exponent + digits.log2 + 1 < -decimalReach then zero negative
  else if exponent < 0 then ofRatio negative digits (Nat.pow 10 exponent.natAbs)
  else ofRatio negative (digits * Nat.pow 10 exponent.natAbs) 1

/-- An exponent part: `e` or `E`, an optional sign and digits to the end. No text is exponent 0. -/
def readExponent? : List Char → Option Int
  | [] => some 0
  | c :: cs => if c = 'e' || c = 'E' then Decimal.read? cs else none

/-- Digits with an optional point and exponent, without a sign. -/
def readUnsigned? (negative : Bool) (cs : List Char) : Option Binary64 := do
  let (whole, rest) := Decimal.spanDigits cs
  let (part, rest) := match rest with
    | '.' :: more => Decimal.spanDigits more
    | _ => ([], rest)
  if whole.isEmpty && part.isEmpty then none
  else
    let exponent ← readExponent? rest
    some (ofDecimal negative (Decimal.value (whole ++ part)) (exponent - part.length))

def readMagnitude? (negative : Bool) (cs : List Char) : Option Binary64 :=
  let word := String.ofList (cs.map Char.toLower)
  if word = "inf" || word = "infinity" then some (infinity negative)
  else if word = "nan" then some nan
  else readUnsigned? negative cs

def read? : List Char → Option Binary64
  | '-' :: cs => readMagnitude? true cs
  | '+' :: cs => readMagnitude? false cs
  | cs => readMagnitude? false cs

end LiveConfig.Binary64
