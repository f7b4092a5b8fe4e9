import LiveConfig.Text.Quoted
import LiveConfig.Value.Text

/-! Values in full.

`detail` shows all that a value holds, with the name of its kind in front: texts are quoted, lists
stand in brackets, and records name their members. Labels are written and not heeded. -/
namespace LiveConfig

namespace Detail

def option {α : Type} (f : α → String) : Option α → String
  | some a => "Some(" ++ f a ++ ")"
  | none => "None"

def list (items : List String) : String := "[" ++ String.intercalate ", " items ++ "]"

def record (name : String) (members : List (String × String)) : String :=
  name ++ " \x7b " ++ String.intercalate ", " (members.map fun m => m.1 ++ ": " ++ m.2) ++ " \x7d"

/-- A number with a fraction of the given count of places, as many of them as are needed. -/
def places (whole part count : Nat) : String :=
  let digits := Nat.toDigits 10 part
  let padded := List.replicate (count - digits.length) '0' ++ digits
  Decimal.text whole ++ if part = 0 then ""
    else "." ++ String.ofList (padded.reverse.dropWhile (· == '0')).reverse

/-- A span of time in the largest unit of which it has one. -/
def span (secs nanos : Nat) : String :=
  if 0 < secs then places secs nanos 9 ++ "s"
  else if 1000000 ≤ nanos then places (nanos / 1000000) (nanos % 1000000) 6 ++ "ms"
  else if 1000 ≤ nanos then places (nanos / 1000) (nanos % 1000) 3 ++ "µs"
  else places nanos 0 0 ++ "ns"

end Detail

/-- One digit before the point, the others after it, and the exponent. -/
def Binary64.Decimal.scientific (d : Binary64.Decimal) : String :=
  let digits := Nat.toDigits 10 d.digits
  let exponent := d.exponent + (digits.length - 1 : Nat)
  String.ofList (digits.take 1) ++
    (if digits.length ≤ 1 then "" else "." ++ String.ofList (digits.drop 1)) ++ "e" ++
    LiveConfig.Decimal.text exponent

/-- A double with a point or an exponent: from `10 ^ 16` on and below `10 ^ -4` with an exponent. -/
def Binary64.detail (x : Binary64) : String :=
  let large := Nat.pow 10 16 * unitsOfOne ≤ x.magnitude
  let small := 0 < x.magnitude ∧ x.magnitude * Nat.pow 10 4 < unitsOfOne
  if !x.isFinite then x.text
  else if large ∨ small then (if x.negative then "-" else "") ++ x.shortest.scientific
  else if x.isIntegral then x.text ++ ".0"
  else x.text

def LogLevel.label : LogLevel → String
  | trace => "Trace"
  | debug => "Debug"
  | info => "Info"
  | warn => "Warn"
  | error => "Error"
  | fatal => "Fatal"

def Value.detail : Value → String
  | .string s => "String(" ++ Text.quoted s ++ ")"
  | .int n => "Int(" ++ Decimal.text n.toInt ++ ")"
  | .double x => "Double(" ++ x.detail ++ ")"
  | .bool b => "Bool(" ++ boolText b ++ ")"
  | .stringList xs => "StringList(" ++ Detail.list (xs.map Text.quoted) ++ ")"
  | .duration d => "Duration(" ++ Detail.span d.secs.toNat d.nanos.toNat ++ ")"
  | .logLevel l => "LogLevel(" ++ l.label ++ ")"
  | .weighted ⟨vs, h⟩ => "WeightedValues(" ++ Detail.record "WeightedValues"
      [("weighted_values", Detail.list (variants vs)),
        ("hash_by_property_name", Detail.option Text.quoted h)] ++ ")"
  | .reference r => "Provided(" ++ Detail.record "Provided"
      [("source", r.source.label), ("lookup", Text.quoted r.lookup)] ++ ")"
  | .bytes b => "Bytes(" ++ Detail.list (b.map fun u => Decimal.text u.toNat) ++ ")"
  | .range r => "IntRange(" ++ Detail.record "IntRange"
      [("start", Detail.option (fun n => Decimal.text n.toInt) r.start),
        ("end", Detail.option (fun n => Decimal.text n.toInt) r.stop)] ++ ")"
where
  variants : List (Variant (Labelled Value)) → List String
    | [] => []
    | ⟨w, ⟨v, c⟩⟩ :: vs => Detail.record "WeightedValue"
        [("weight", Decimal.text w.toNat),
          ("value", Detail.record "ConfigValue"
            [("value", v.detail), ("confidential", boolText c)])] :: variants vs

end LiveConfig
