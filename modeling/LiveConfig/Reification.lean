import LiveConfig.Evaluation.Evaluator
import LiveConfig.World
import LiveConfig.Binary64.Reading
import LiveConfig.Text.Blank

/-! Turning a match into a value that a caller can use.

A reference is read when the value is asked for. The text of an environment variable is converted
to the declared type of the config: numbers, truth values and level names after trimming, level
names and truth values without regard to case, lists by splitting at commas. A text that cannot be
converted is logged and given as a string, an absent variable or unknown source as the empty string;
the label of the reference stays. -/
namespace LiveConfig

def boolOfText? (cs : List Char) : Option Bool :=
  if Text.sameWord cs "true".toList then some true
  else if Text.sameWord cs "false".toList then some false
  else none

def levelOfText? (cs : List Char) : Option LogLevel :=
  LogLevel.all.find? fun l => Text.sameWord l.name.toList cs

/-- Items between commas, trimmed, without the empty ones. -/
def itemsOfText (cs : List Char) : List String :=
  (((Text.splitAt (· = ',') cs).map Text.trim).filter fun item => !item.isEmpty).map String.ofList

/-- A text as a value of a type. -/
def coerce? (raw : String) (type : ValueType) : Option Value :=
  let trimmed := Text.trim raw.toList
  match type with
  | .string => some (.string raw)
  | .int => (Decimal.readInt64? trimmed).map .int
  | .double => (Binary64.read? trimmed).map .double
  | .bool => (boolOfText? trimmed).map .bool
  | .stringList => some (.stringList (itemsOfText raw.toList))
  | .logLevel => (levelOfText? trimmed).map .logLevel
  | .bytes => some (.bytes raw.toUTF8.toList)
  | .duration => none

/-- The value that a reference of a config stands for. -/
def Reference.read (r : Reference) (vars : Variables) (key : String)
    (type : Option ValueType) : Logged Value := do
  match r.source with
  | .unknown => do
    Logged.log (.unknownSource key r.lookup)
    return .string ""
  | .environment =>
    match vars r.lookup, type with
    | none, _ => do
      Logged.log (.unreadable key (.missingVariable r.lookup))
      return .string ""
    | some raw, none => return .string raw
    | some raw, some type =>
      match coerce? raw type with
      | some v => return v
      | none => do
        Logged.log (.unreadable key (.unreadableVariable r.lookup type))
        return .string raw

/-- The value of a match, a reference being read. -/
def Match.reify (m : Match) (vars : Variables) : Logged ConfigValue := do
  match m.value.value with
  | .reference r => do
    let v ← r.read vars m.key m.element.config.valueType
    return ⟨v, m.value.confidential⟩
  | _ => return m.value

/-- Evaluates a key and reads what it refers to, as evaluation number `turn`. -/
def Snapshot.get (s : Snapshot) (w : World) (turn : Nat) (context : LookupContext) (key : String) :
    Logged (Option ConfigValue) := do
  match ← s.evaluate Murmur3.fraction (w.draws turn) (w.clock turn) context key with
  | some m => do
    let v ← m.reify w.vars
    return some v
  | none => return none

end LiveConfig
