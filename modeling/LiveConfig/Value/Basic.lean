import LiveConfig.Binary64.Basic

/-! Values that rules produce and that context properties carry.

A value is one of eleven kinds. A distribution holds further values, each with its own label, so
the type of values is recursive through lists of variants. Labels say whether a value may be shown;
they take part in equality. Equality is structural with the equality of binary64 on doubles, so a
value that holds NaN is not equal to itself. -/
namespace LiveConfig

inductive LogLevel
  | trace | debug | info | warn | error | fatal
deriving DecidableEq, Inhabited

namespace LogLevel

def all : List LogLevel := [trace, debug, info, warn, error, fatal]

def rank : LogLevel → Nat
  | trace => 0
  | debug => 1
  | info => 2
  | warn => 3
  | error => 4
  | fatal => 5

def name : LogLevel → String
  | trace => "TRACE"
  | debug => "DEBUG"
  | info => "INFO"
  | warn => "WARN"
  | error => "ERROR"
  | fatal => "FATAL"

def ofName? (s : String) : Option LogLevel := all.find? fun l => l.name = s

/-- The threshold in a scale that ends with errors. -/
def threshold : LogLevel → LogLevel
  | fatal => error
  | l => l

theorem ofName?_name (l : LogLevel) : ofName? l.name = some l := by cases l <;> decide

end LogLevel

/-- Whole seconds and the nanoseconds of the second begun. -/
structure Duration where
  secs : UInt64
  nanos : UInt32
  nanos_lt : nanos.toNat < 1000000000
deriving DecidableEq

namespace Duration

/-- Carries nanoseconds of a second and more into the seconds; nothing when these overflow. -/
def ofParts? (secs : Nat) (nanos : Nat) : Option Duration :=
  let total := secs + nanos / 1000000000
  if total < UInt64.size then
    some ⟨UInt64.ofNat total, UInt32.ofNat (nanos % 1000000000), by
      have : nanos % 1000000000 < 1000000000 := Nat.mod_lt _ (by decide)
      rw [UInt32.toNat_ofNat_of_lt' (Nat.lt_trans this (by decide))]
      exact this⟩
  else none

def millis (d : Duration) : Nat := d.secs.toNat * 1000 + d.nanos.toNat / 1000000

end Duration

/-- Where a referenced value lives. -/
inductive ReferenceSource
  | environment
  | unknown
deriving DecidableEq, Inhabited

/-- A value held elsewhere, read when it is asked for. -/
structure Reference where
  source : ReferenceSource
  lookup : String
deriving DecidableEq, Inhabited

/-- Integers from `start` on and below `stop`; a missing bound is no bound. -/
structure IntRange where
  start : Option Int64
  stop : Option Int64
deriving DecidableEq, Inhabited

namespace IntRange

def contains (r : IntRange) (n : Int64) : Bool :=
  (match r.start with
    | some a => a ≤ n
    | none => true) &&
  match r.stop with
  | some b => n < b
  | none => true

end IntRange

/-- A value and whether it must be kept out of logs and telemetry. -/
structure Labelled (α : Type) where
  value : α
  confidential : Bool

/-- An outcome of a distribution and its share. -/
structure Variant (α : Type) where
  weight : UInt32
  value : α

/-- Weighted outcomes in declared order, and the property whose value picks one of them. -/
structure Distribution (α : Type) where
  variants : List (Variant α)
  hashBy : Option String

inductive Value
  | string (s : String)
  | int (n : Int64)
  | double (x : Binary64)
  | bool (b : Bool)
  | stringList (items : List String)
  | duration (d : Duration)
  | logLevel (l : LogLevel)
  | weighted (d : Distribution (Labelled Value))
  | reference (r : Reference)
  | bytes (b : List UInt8)
  | range (r : IntRange)

instance : Inhabited Value := ⟨.string ""⟩

abbrev ConfigValue := Labelled Value

abbrev WeightedValues := Distribution ConfigValue

/-- A value that may be shown. -/
def Value.plain (v : Value) : ConfigValue := ⟨v, false⟩

def Value.secret (v : Value) : ConfigValue := ⟨v, true⟩

def Value.beq : Value → Value → Bool
  | .string a, .string b => a == b
  | .int a, .int b => a == b
  | .double x, .double y => x == y
  | .bool a, .bool b => a == b
  | .stringList a, .stringList b => a == b
  | .duration a, .duration b => a == b
  | .logLevel a, .logLevel b => a == b
  | .weighted ⟨vs, h⟩, .weighted ⟨ws, k⟩ => h == k && variants vs ws
  | .reference a, .reference b => a == b
  | .bytes a, .bytes b => a == b
  | .range a, .range b => a == b
  | _, _ => false
where
  variants : List (Variant (Labelled Value)) → List (Variant (Labelled Value)) → Bool
    | [], [] => true
    | ⟨a, ⟨v, c⟩⟩ :: vs, ⟨b, ⟨w, d⟩⟩ :: ws => a == b && c == d && Value.beq v w && variants vs ws
    | _, _ => false

instance : BEq Value := ⟨Value.beq⟩

instance {α : Type} [BEq α] : BEq (Labelled α) :=
  ⟨fun a b => a.value == b.value && a.confidential == b.confidential⟩

namespace Value

def string? : Value → Option String
  | .string s => some s
  | _ => none

def int? : Value → Option Int64
  | .int n => some n
  | _ => none

def double? : Value → Option Binary64
  | .double x => some x
  | _ => none

def bool? : Value → Option Bool
  | .bool b => some b
  | _ => none

def stringList? : Value → Option (List String)
  | .stringList xs => some xs
  | _ => none

def duration? : Value → Option Duration
  | .duration d => some d
  | _ => none

def logLevel? : Value → Option LogLevel
  | .logLevel l => some l
  | _ => none

/-- Whether a property with this value belongs to no set at all. -/
def isEmptyMember : Value → Bool
  | .string s => s.isEmpty
  | .stringList xs => xs.isEmpty
  | _ => false

end Value

/-- The declared type of a config's values. -/
inductive ValueType
  | string | int | double | bool | stringList | duration | logLevel | bytes
deriving DecidableEq, Inhabited

namespace ValueType

def all : List ValueType := [string, int, double, bool, stringList, duration, logLevel, bytes]

/-- Name in the data format. -/
def name : ValueType → String
  | string => "STRING"
  | int => "INT"
  | double => "DOUBLE"
  | bool => "BOOL"
  | stringList => "STRING_LIST"
  | duration => "DURATION"
  | logLevel => "LOG_LEVEL"
  | bytes => "BYTES"

/-- Name in messages. -/
def label : ValueType → String
  | string => "String"
  | int => "Int"
  | double => "Double"
  | bool => "Bool"
  | stringList => "StringList"
  | duration => "Duration"
  | logLevel => "LogLevel"
  | bytes => "Bytes"

def ofName? (s : String) : Option ValueType := all.find? fun t => t.name = s

theorem ofName?_name (t : ValueType) : ofName? t.name = some t := by cases t <;> decide

end ValueType
end LiveConfig
