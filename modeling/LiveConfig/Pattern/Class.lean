import LiveConfig.Pattern.Basic
import LiveConfig.Text.Age
import LiveConfig.Text.Boundary

/-! Character classes that patterns refer to by a letter or by a name.

A class letter has a Unicode and an ASCII reading. A bracketed name inside a class is always ASCII.
A property is named without regard to case, blanks, hyphens, underscores and a leading `is`; a name
alone may be a property, a general category or a script, and `name=value` and `name:value` ask for a
value of a property that has more than two. -/
namespace LiveConfig.Pattern

/-- Unicode and ASCII reading of the class letters for digits, white space and words. -/
def letterClass? : Char → Option (CodeSet × CodeSet)
  | 'd' => some (Category.decimalNumber, .ofText "30-39")
  | 's' => some (Property.whiteSpace, .ofText "9-D 20")
  | 'w' => some (Property.wordLike, Look.asciiWord)
  | _ => none

def bracketedClass? (name : String) : Option CodeSet :=
  match name with
  | "alnum" => some (.ofText "30-39 41-5A 61-7A")
  | "alpha" => some (.ofText "41-5A 61-7A")
  | "ascii" => some (.ofText "0-7F")
  | "blank" => some (.ofText "9 20")
  | "cntrl" => some (.ofText "0-1F 7F")
  | "digit" => some (.ofText "30-39")
  | "graph" => some (.ofText "21-7E")
  | "lower" => some (.ofText "61-7A")
  | "print" => some (.ofText "20-7E")
  | "punct" => some (.ofText "21-2F 3A-40 5B-60 7B-7E")
  | "space" => some (.ofText "9-D 20")
  | "upper" => some (.ofText "41-5A")
  | "word" => some Look.asciiWord
  | "xdigit" => some (.ofText "30-39 41-46 61-66")
  | _ => none

/-- A name as it is compared. Only a text that starts with `is` loses these letters, and never so
that a lone `c` is left. -/
def plainName (cs : List Char) : String :=
  let kept (cs : List Char) : List Char :=
    (cs.filter fun c => c.toNat < 128 && c ≠ ' ' && c ≠ '-' && c ≠ '_').map Char.toLower
  match cs with
  | a :: b :: rest =>
    if a.toLower = 'i' && b.toLower = 's' && kept rest ≠ ['c'] then String.ofList (kept rest)
    else String.ofList (kept cs)
  | _ => String.ofList (kept cs)

/-- The set of a property that is named alone: a property proper, a general category or a script. -/
def namedSet? (name : String) : Option CodeSet :=
  (Property.named? name).or ((Category.named? name).or (Script.named? name))

/-- The set of a property value. -/
def valuedSet? (property value : String) : Option CodeSet :=
  match property with
  | "gc" | "generalcategory" => Category.named? value
  | "sc" | "script" => Script.named? value
  | "scx" | "scriptextensions" => Script.used? value
  | "age" => Age.upTo? value
  | "gcb" | "graphemeclusterbreak" => Boundary.named? Boundary.grapheme value
  | "wb" | "wordbreak" => Boundary.named? Boundary.word value
  | "sb" | "sentencebreak" => Boundary.named? Boundary.sentence value
  | _ => none

/-- Splits at the first occurrence of a separator of one character. -/
def splitFirst? (separator : Char) (cs : List Char) : Option (List Char × List Char) :=
  match cs.dropWhile (· ≠ separator) with
  | _ :: rest => some (cs.takeWhile (· ≠ separator), rest)
  | [] => none

/-- Splits at the first `!=`. -/
def splitUnequal? : List Char → Option (List Char × List Char)
  | '!' :: '=' :: rest => some ([], rest)
  | c :: rest => (splitUnequal? rest).map fun r => (c :: r.1, r.2)
  | [] => none

/-- The set of a property as it stands between braces, and whether the comparison negates it. -/
def propertySet? (cs : List Char) : Option (CodeSet × Bool) :=
  match splitUnequal? cs with
  | some (p, v) => (valuedSet? (plainName p) (plainName v)).map fun s => (s, true)
  | none =>
    match (splitFirst? ':' cs).or (splitFirst? '=' cs) with
    | some (p, v) => (valuedSet? (plainName p) (plainName v)).map fun s => (s, false)
    | none => (namedSet? (plainName cs)).map fun s => (s, false)

end LiveConfig.Pattern
