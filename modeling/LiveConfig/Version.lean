import LiveConfig.Text.Decimal

/-! Semantic versions and their total order.

A version is three numbers, optional pre-release identifiers and optional build identifiers. The
numbers are 64-bit words written without leading zeros; an identifier is a nonempty run of ASCII
letters, digits and hyphens, and a pre-release identifier of digits alone has no leading zero. A
pre-release precedes its release. Identifiers are compared from the left, numbers below words, and
a list precedes its extensions. Build identifiers break ties last, numbers among them by value and
then by length, so that only equal texts compare equal. -/
namespace LiveConfig

structure Version where
  major : Nat
  minor : Nat
  patch : Nat
  pre : List String
  build : List String
deriving DecidableEq, Inhabited

namespace Version

/-- A number at the front of a text. -/
def readNumber? (cs : List Char) : Option (Nat × List Char) :=
  let (ds, rest) := Decimal.spanDigits cs
  if ds.isEmpty || (ds.head? = some '0' && 1 < ds.length) then none
  else
    let n := Decimal.value ds
    if n < UInt64.size then some (n, rest) else none

def isIdentifierChar (c : Char) : Bool := c.isAlphanum || c = '-'

def isNumeric (s : String) : Bool := s.toList.all Char.isDigit

/-- Identifiers up to the first character that belongs to none. -/
def readIdentifiers (done : List String) (current : List Char) :
    List Char → List String × List Char
  | [] => ((String.ofList current.reverse :: done).reverse, [])
  | c :: rest =>
    if isIdentifierChar c then readIdentifiers done (c :: current) rest
    else if c = '.' then readIdentifiers (String.ofList current.reverse :: done) [] rest
    else ((String.ofList current.reverse :: done).reverse, c :: rest)

def isPlainNumeral (s : String) : Bool := !isNumeric s || s.length ≤ 1 || s.toList.head? ≠ some '0'

def readPre? : List Char → Option (List String × List Char)
  | '-' :: rest =>
    let (ids, rest) := readIdentifiers [] [] rest
    if ids.all fun s => !s.isEmpty && isPlainNumeral s then some (ids, rest) else none
  | rest => some ([], rest)

def readBuild? : List Char → Option (List String × List Char)
  | '+' :: rest =>
    let (ids, rest) := readIdentifiers [] [] rest
    if ids.all fun s => !s.isEmpty then some (ids, rest) else none
  | rest => some ([], rest)

def dot? : List Char → Option (List Char)
  | '.' :: rest => some rest
  | _ => none

def read? (cs : List Char) : Option Version := do
  let (major, rest) ← readNumber? cs
  let rest ← dot? rest
  let (minor, rest) ← readNumber? rest
  let rest ← dot? rest
  let (patch, rest) ← readNumber? rest
  let (pre, rest) ← readPre? rest
  let (build, rest) ← readBuild? rest
  if rest.isEmpty then some ⟨major, minor, patch, pre, build⟩ else none

/-- Order of two identifiers of one kind of list, where `number` compares numerals. -/
def compareIdentifier (number : String → String → Ordering) (a b : String) : Ordering :=
  match isNumeric a, isNumeric b with
  | false, true => .gt
  | true, false => .lt
  | false, false => compare a b
  | true, true => number a b

/-- Numerals without leading zeros: the longer is greater. -/
def compareNumeral (a b : String) : Ordering := (compare a.length b.length).then (compare a b)

def dropZeros (s : String) : String := String.ofList (s.toList.dropWhile (· = '0'))

/-- Numerals by value; of two spellings of one value the longer is greater. -/
def comparePaddedNumeral (a b : String) : Ordering :=
  (compareNumeral (dropZeros a) (dropZeros b)).then (compare a.length b.length)

def compareLists (cmp : String → String → Ordering) : List String → List String → Ordering
  | [], [] => .eq
  | [], _ :: _ => .lt
  | _ :: _, [] => .gt
  | a :: as, b :: bs => (cmp a b).then (compareLists cmp as bs)

def comparePre (a b : List String) : Ordering :=
  match a, b with
  | [], [] => .eq
  | [], _ :: _ => .gt
  | _ :: _, [] => .lt
  | a, b => compareLists (compareIdentifier compareNumeral) a b

def compareBuild (a b : List String) : Ordering :=
  compareLists (compareIdentifier comparePaddedNumeral) a b

def order (v w : Version) : Ordering :=
  (compare v.major w.major).then <| (compare v.minor w.minor).then <|
    (compare v.patch w.patch).then <| (comparePre v.pre w.pre).then (compareBuild v.build w.build)

end Version
end LiveConfig
