import LiveConfig.Value.Basic
import LiveConfig.Binary64.Shortest
import LiveConfig.Text.Decimal
import LiveConfig.Digest.Md5

/-! Values as text.

`text` shows a value of any kind. `scalarText?` is the string a scalar counts as where a string is
compared or hashed; there an integral double below `10 ^ 16` keeps one decimal place, so that it
does not look like an integer. `redacted` is the only form in which a confidential value may be
shown: equal secrets stay recognisable as equal by a few digits of a digest. -/
namespace LiveConfig

def Binary64.scalarText (x : Binary64) : String :=
  if x.isIntegral && x.wholePart < Nat.pow 10 16 then
    (if x.negative then "-" else "") ++ String.ofList (Nat.toDigits 10 x.wholePart) ++ ".0"
  else x.text

def IntRange.text (r : IntRange) : String :=
  (match r.start with
    | some a => "[" ++ Decimal.text a.toInt ++ ", "
    | none => "(-inf, ") ++
  match r.stop with
  | some b => Decimal.text b.toInt ++ ")"
  | none => "+inf)"

def ReferenceSource.label : ReferenceSource → String
  | .environment => "EnvVar"
  | .unknown => "Unknown"

namespace Value

def boolText (b : Bool) : String := if b then "true" else "false"

def scalarText? : Value → Option String
  | .string s => some s
  | .int n => some (Decimal.text n.toInt)
  | .double x => some x.scalarText
  | .bool b => some (boolText b)
  | .logLevel l => some l.name
  | _ => none

def text : Value → String
  | .string s => s
  | .int n => Decimal.text n.toInt
  | .double x => x.text
  | .bool b => boolText b
  | .stringList xs => "[" ++ String.intercalate "," xs ++ "]"
  | .duration d => Decimal.text d.millis ++ "ms"
  | .logLevel l => l.name
  | .weighted d => "weighted(" ++ Decimal.text d.variants.length ++ " variants)"
  | .reference r => "provided(" ++ r.source.label ++ ":" ++ r.lookup ++ ")"
  | .bytes b => "bytes(" ++ Decimal.text b.length ++ ")"
  | .range r => r.text

/-- Strings that a property contributes to a comparison with a set of strings. -/
def memberTexts : Value → List String
  | .stringList xs => xs
  | v => v.scalarText?.toList

end Value

/-- The digest that stands for a secret text. -/
def digestMark (s : String) : String :=
  "*****" ++ String.ofList ((Md5.hex s.toUTF8.toList).take 5)

def Labelled.redacted (v : ConfigValue) : String :=
  if v.confidential then digestMark v.value.text else v.value.text

end LiveConfig
