import LiveConfig.Json.Basic
import LiveConfig.Binary64.Reading
import LiveConfig.Text.CodeSet

/-! Reading JSON text.

Nested values are read by recursion on a budget that the length of the text covers, since every
step consumes a character. An integer literal that no 64-bit word holds, and the literal `-0`, are
binary64 numbers; a literal beyond the largest finite number is refused. In strings a pair of
escaped surrogates is one character and a surrogate without its partner is refused. Values may be
nested to any depth: a reader that refuses deep texts, from 128 levels on say, reads the others
alike. -/
namespace LiveConfig.Json

def skipBlanks (cs : List Char) : List Char :=
  cs.dropWhile fun c => c = ' ' || c = '\t' || c = '\n' || c = '\r'

/-- A piece of a string literal: a character as it stands, or a 16-bit unit from an escape. -/
inductive Piece
  | plain (c : Char)
  | unit (n : Nat)

def hexUnit? (cs : List Char) : Option Nat :=
  (cs.mapM CodeSet.hexDigit?).map fun ds => ds.foldl (fun n d => n * 16 + d) 0

/-- What a one-letter escape stands for. -/
def escape? : Char → Option Char
  | '"' => some '"'
  | '\\' => some '\\'
  | '/' => some '/'
  | 'b' => some '\x08'
  | 'f' => some '\x0c'
  | 'n' => some '\n'
  | 'r' => some '\r'
  | 't' => some '\t'
  | _ => none

/-- Pieces up to the closing quote, and the text after it. -/
def readPieces (done : List Piece) : List Char → Option (List Piece × List Char)
  | [] => none
  | '"' :: rest => some (done.reverse, rest)
  | '\\' :: 'u' :: a :: b :: c :: d :: rest =>
    match hexUnit? [a, b, c, d] with
    | some n => readPieces (.unit n :: done) rest
    | none => none
  | '\\' :: c :: rest =>
    match escape? c with
    | some e => readPieces (.plain e :: done) rest
    | none => none
  | c :: rest => if c.toNat < 0x20 then none else readPieces (.plain c :: done) rest

def isHighSurrogate (n : Nat) : Bool := 0xD800 ≤ n && n < 0xDC00

def isLowSurrogate (n : Nat) : Bool := 0xDC00 ≤ n && n < 0xE000

def joinPieces (done : List Char) : List Piece → Option (List Char)
  | [] => some done.reverse
  | .plain c :: rest => joinPieces (c :: done) rest
  | .unit h :: .unit l :: rest =>
    if isHighSurrogate h then
      if isLowSurrogate l then
        joinPieces (Char.ofNat (0x10000 + (h - 0xD800) * 0x400 + (l - 0xDC00)) :: done) rest
      else none
    else if isLowSurrogate h then none
    else joinPieces (Char.ofNat h :: done) (.unit l :: rest)
  | .unit n :: rest =>
    if isHighSurrogate n || isLowSurrogate n then none else joinPieces (Char.ofNat n :: done) rest

def readString (cs : List Char) : Option (String × List Char) := do
  let (pieces, rest) ← readPieces [] cs
  let chars ← joinPieces [] pieces
  some (String.ofList chars, rest)

/-- Digits of the fraction, which has at least one. -/
def readFraction : List Char → Option (List Char × List Char)
  | '.' :: rest =>
    let (ds, rest) := Decimal.spanDigits rest
    if ds.isEmpty then none else some (ds, rest)
  | rest => some ([], rest)

def readExponent (cs : List Char) : Option (Option Int × List Char) :=
  match cs with
  | c :: rest =>
    if c = 'e' || c = 'E' then
      let (negative, rest) := match rest with
        | '-' :: more => (true, more)
        | '+' :: more => (false, more)
        | _ => (false, rest)
      let (ds, rest) := Decimal.spanDigits rest
      if ds.isEmpty then none
      else
        let n : Int := Decimal.value ds
        some (some (if negative then -n else n), rest)
    else some (none, cs)
  | [] => some (none, cs)

/-- A literal without fraction and exponent. -/
def integerLiteral (negative : Bool) (n : Nat) : Option Json :=
  let signed : Int := if negative then -(n : Int) else n
  if negative && n = 0 then some (.number (.zero true))
  else if Int64.minValue.toInt ≤ signed ∧ signed < Int.ofNat UInt64.size then some (.int signed)
  else
    let x := Binary64.ofDecimal negative n 0
    if x.isFinite then some (.number x) else none

def readNumber (negative : Bool) (cs : List Char) : Option (Json × List Char) := do
  let (whole, rest) := Decimal.spanDigits cs
  if whole.isEmpty || (whole.head? = some '0' && 1 < whole.length) then none
  let (part, rest) ← readFraction rest
  let (exponent, rest) ← readExponent rest
  if part.isEmpty && exponent.isNone then
    (integerLiteral negative (Decimal.value whole)).map fun j => (j, rest)
  else
    let x :=
      Binary64.ofDecimal negative (Decimal.value (whole ++ part)) (exponent.getD 0 - part.length)
    if x.isFinite then some (.number x, rest) else none

mutual

/-- The value at the front of a text, and the text after it. -/
def readValue : Nat → List Char → Option (Json × List Char)
  | 0, _ => none
  | budget + 1, cs =>
    match skipBlanks cs with
    | '\x7b' :: rest =>
      match skipBlanks rest with
      | '\x7d' :: rest => some (.object [], rest)
      | rest => readMembers budget [] rest
    | '[' :: rest =>
      match skipBlanks rest with
      | ']' :: rest => some (.array [], rest)
      | rest => readItems budget [] rest
    | '"' :: rest => (readString rest).map fun r => (.string r.1, r.2)
    | '-' :: rest => readNumber true rest
    | 't' :: 'r' :: 'u' :: 'e' :: rest => some (.bool true, rest)
    | 'f' :: 'a' :: 'l' :: 's' :: 'e' :: rest => some (.bool false, rest)
    | 'n' :: 'u' :: 'l' :: 'l' :: rest => some (.null, rest)
    | rest => readNumber false rest

def readItems : Nat → List Json → List Char → Option (Json × List Char)
  | 0, _, _ => none
  | budget + 1, done, cs =>
    match readValue budget cs with
    | none => none
    | some (item, rest) =>
      match skipBlanks rest with
      | ',' :: rest => readItems budget (item :: done) rest
      | ']' :: rest => some (.array (item :: done).reverse, rest)
      | _ => none

def readMembers : Nat → List (String × Json) → List Char → Option (Json × List Char)
  | 0, _, _ => none
  | budget + 1, done, cs =>
    match skipBlanks cs with
    | '"' :: rest =>
      match readString rest with
      | none => none
      | some (name, rest) =>
        match skipBlanks rest with
        | ':' :: rest =>
          match readValue budget rest with
          | none => none
          | some (value, rest) =>
            match skipBlanks rest with
            | ',' :: rest => readMembers budget ((name, value) :: done) rest
            | '\x7d' :: rest => some (.object ((name, value) :: done).reverse, rest)
            | _ => none
        | _ => none
    | _ => none

end

def read? (s : String) : Option Json :=
  let cs := s.toList
  match readValue (cs.length + 1) cs with
  | some (j, rest) => if (skipBlanks rest).isEmpty then some j else none
  | none => none

end LiveConfig.Json
