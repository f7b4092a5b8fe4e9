import LiveConfig.Value.Basic
import LiveConfig.Json.Basic
import LiveConfig.Binary64.Rounding

/-! The data format of values.

A labelled value is an object with one member named for the kind of the value and a member for the
label, which is plain when it is missing. Constants that a reader does not know are kept as unknown
where the format allows for them and are errors elsewhere. The writer takes the spelling of doubles
as a parameter; `Json.ofBinary64` is the format's own. Reading descends through the members
themselves, so it ends with them. -/
namespace LiveConfig

def Duration.toJson (d : Duration) : Json :=
  .object [("secs", .int d.secs.toNat), ("nanos", .int d.nanos.toNat)]

def Duration.ofJson? (j : Json) : Option Duration := do
  let ms ← j.exactRecord? ["secs", "nanos"]
  let secs ← Json.required? ms "secs" (Json.below? UInt64.size)
  let nanos ← Json.required? ms "nanos" (Json.below? UInt32.size)
  Duration.ofParts? secs nanos

def ReferenceSource.name : ReferenceSource → String
  | .environment => "ENV_VAR"
  | .unknown => "UNKNOWN"

def ReferenceSource.ofName (s : String) : ReferenceSource :=
  if s = "ENV_VAR" then .environment else .unknown

def ReferenceSource.ofJson? (j : Json) : Option ReferenceSource :=
  j.name?.map ReferenceSource.ofName

def Reference.toJson (r : Reference) : Json :=
  .object [("source", .string r.source.name), ("lookup", .string r.lookup)]

/-- A reference whose source is spelled as `name?` reads it. -/
def Reference.read? (name? : Json → Option String) (j : Json) : Option Reference := do
  let ms ← j.record? ["source", "lookup"]
  let source ← Json.required? ms "source" name?
  let lookup ← Json.required? ms "lookup" Json.string?
  some ⟨.ofName source, lookup⟩

def Reference.ofJson? (j : Json) : Option Reference := Reference.read? Json.name? j

def IntRange.toJson (r : IntRange) : Json :=
  .object [("start", .ofOption .ofInt64 r.start), ("end", .ofOption .ofInt64 r.stop)]

def IntRange.ofJson? (j : Json) : Option IntRange := do
  let ms ← j.record? ["start", "end"]
  let start ← Json.default? ms "start" none (Json.optionOf? Json.int64?)
  let stop ← Json.default? ms "end" none (Json.optionOf? Json.int64?)
  some ⟨start, stop⟩

def LogLevel.ofJson? (j : Json) : Option LogLevel := j.name?.bind LogLevel.ofName?

def ValueType.ofJson? (j : Json) : Option ValueType := j.name?.bind ValueType.ofName?

/-- A double; an integer counts as the nearest one. -/
def Binary64.ofJson? : Json → Option Binary64
  | .number x => some x
  | .int n => some (.ofInt n)
  | _ => none

namespace Value

/-- Object of a value's member and its label. -/
def labelJson (member : String × Json) (confidential : Bool) : Json :=
  .object [member, ("confidential", .bool confidential)]

/-- The member that spells a value. -/
def member (number : Binary64 → Json) : Value → String × Json
  | .string s => ("string", .string s)
  | .int n => ("int", .ofInt64 n)
  | .double x => ("double", number x)
  | .bool b => ("bool", .bool b)
  | .stringList xs => ("stringList", .array (xs.map .string))
  | .duration d => ("duration", d.toJson)
  | .logLevel l => ("logLevel", .string l.name)
  | .weighted ⟨vs, h⟩ =>
    ("weightedValues", .object [("weightedValues", .array (variantItems number vs)),
      ("hashByPropertyName", .ofOption .string h)])
  | .reference r => ("provided", r.toJson)
  | .bytes b => ("bytes", .array (b.map fun x => .int x.toNat))
  | .range r => ("intRange", r.toJson)
where
  variantItems (number : Binary64 → Json) : List (Variant (Labelled Value)) → List Json
    | [] => []
    | ⟨w, ⟨v, c⟩⟩ :: rest =>
      .object [("weight", .int w.toNat), ("value", labelJson (member number v) c)] ::
        variantItems number rest

/-- The kinds that hold no further values, by the names of their members. -/
def leafOfJson? (kind : String) (j : Json) : Option (Option Value) :=
  match kind with
  | "string" => some (j.string?.map .string)
  | "int" => some (j.int64?.map .int)
  | "double" => some ((Binary64.ofJson? j).map .double)
  | "bool" => some (j.bool?.map .bool)
  | "stringList" => some ((j.listOf? Json.string?).map .stringList)
  | "duration" => some ((Duration.ofJson? j).map .duration)
  | "logLevel" => some ((j.innerName?.bind LogLevel.ofName?).map .logLevel)
  | "provided" => some ((Reference.read? Json.innerName? j).map .reference)
  | "bytes" => some ((j.listOf? (Json.below? 256)).map fun b => .bytes (b.map UInt8.ofNat))
  | "intRange" => some ((IntRange.ofJson? j).map .range)
  | _ => none

end Value

mutual

def Labelled.ofJson? : Json → Option ConfigValue
  | .object ms =>
    if Json.once ["confidential"] ms then
      match Value.ofMembers? ms, Json.default? ms "confidential" false Json.bool? with
      | some v, some c => some ⟨v, c⟩
      | _, _ => none
    else none
  | _ => none

/-- The value of the first member that names a kind. -/
def Value.ofMembers? : List (String × Json) → Option Value
  | [] => none
  | (kind, j) :: rest =>
    if kind = "weightedValues" then (Distribution.ofJson? j).map .weighted
    else
      match Value.leafOfJson? kind j with
      | some v => v
      | none => Value.ofMembers? rest

def Distribution.ofJson? : Json → Option WeightedValues
  | .object ms =>
    if Json.once ["weightedValues", "hashByPropertyName"] ms then
      match Distribution.variantsMember? ms,
          Json.default? ms "hashByPropertyName" none (Json.optionOf? Json.string?) with
      | some vs, some h => some ⟨vs, h⟩
      | _, _ => none
    else none
  | .array [vs] => (Distribution.variantItems? vs).map fun vs => ⟨vs, none⟩
  | .array [vs, h] =>
    match Distribution.variantItems? vs, Json.optionOf? Json.string? h with
    | some vs, some h => some ⟨vs, h⟩
    | _, _ => none
  | _ => none

def Distribution.variantsMember? : List (String × Json) → Option (List (Variant ConfigValue))
  | [] => none
  | (name, j) :: rest =>
    if name = "weightedValues" then Distribution.variantItems? j
    else Distribution.variantsMember? rest

def Distribution.variantItems? : Json → Option (List (Variant ConfigValue))
  | .array xs => Variant.listOfJson? xs
  | _ => none

def Variant.listOfJson? : List Json → Option (List (Variant ConfigValue))
  | [] => some []
  | j :: rest =>
    match Variant.ofJson? j, Variant.listOfJson? rest with
    | some v, some vs => some (v :: vs)
    | _, _ => none

def Variant.ofJson? : Json → Option (Variant ConfigValue)
  | .object ms =>
    if Json.once ["weight", "value"] ms then
      match Json.required? ms "weight" (Json.below? UInt32.size), Variant.valueMember? ms with
      | some w, some v => some ⟨UInt32.ofNat w, v⟩
      | _, _ => none
    else none
  | .array [w, v] =>
    match Json.below? UInt32.size w, Labelled.ofJson? v with
    | some w, some v => some ⟨UInt32.ofNat w, v⟩
    | _, _ => none
  | _ => none

def Variant.valueMember? : List (String × Json) → Option ConfigValue
  | [] => none
  | (name, j) :: rest =>
    if name = "value" then Labelled.ofJson? j else Variant.valueMember? rest

end

def Labelled.toJsonWith (number : Binary64 → Json) (v : ConfigValue) : Json :=
  Value.labelJson (v.value.member number) v.confidential

def Distribution.toJsonWith (number : Binary64 → Json) (d : WeightedValues) : Json :=
  ((Value.weighted d).member number).2

end LiveConfig
