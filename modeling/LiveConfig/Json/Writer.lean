import LiveConfig.Json.Basic
import LiveConfig.Binary64.Shortest

/-! Writing JSON text, without blanks between tokens.

A binary64 is written with a point even when it is an integer, so that it does not read back as an
integer literal; NaN and the infinities have no spelling and become `null`. -/
namespace LiveConfig.Json

def escapeUnit (n : Nat) : List Char :=
  let ds := Nat.toDigits 16 n
  '\\' :: 'u' :: (List.replicate (4 - ds.length) '0' ++ ds)

def writeChar (c : Char) : List Char :=
  match c with
  | '"' => ['\\', '"']
  | '\\' => ['\\', '\\']
  | '\n' => ['\\', 'n']
  | '\r' => ['\\', 'r']
  | '\t' => ['\\', 't']
  | c => if c.toNat < 0x20 then escapeUnit c.toNat else [c]

def writeString (s : String) : String :=
  String.ofList ('"' :: (s.toList.flatMap writeChar ++ ['"']))

def writeNumber (x : Binary64) : String :=
  if x.isFinite then if x.isIntegral then x.text ++ ".0" else x.text else "null"

mutual

def write : Json → String
  | .null => "null"
  | .bool true => "true"
  | .bool false => "false"
  | .int n => String.ofList (Decimal.write n)
  | .number x => writeNumber x
  | .string s => writeString s
  | .array [] => "[]"
  | .array (item :: items) => "[" ++ write item ++ writeItems items
  | .object [] => "\x7b\x7d"
  | .object (member :: members) =>
    "\x7b" ++ writeString member.1 ++ ":" ++ write member.2 ++ writeMembers members

/-- Items after the first, and the end of the array. -/
def writeItems : List Json → String
  | [] => "]"
  | item :: items => "," ++ write item ++ writeItems items

/-- Members after the first, and the end of the object. -/
def writeMembers : List (String × Json) → String
  | [] => "\x7d"
  | (name, value) :: members =>
    "," ++ writeString name ++ ":" ++ write value ++ writeMembers members

end

end LiveConfig.Json
