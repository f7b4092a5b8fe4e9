import LiveConfig.Rule.Basic
import LiveConfig.Value.Json

/-! The data format of configs.

Members that may be missing have the defaults given here; a member that is there must be of its
kind, and `null` is nothing only where nothing is a value. Names of operators and of kinds of
config that a reader does not know become the unknown one; other unknown names are errors. -/
namespace LiveConfig

def Operator.ofJson? (j : Json) : Option Operator := j.name?.map Operator.ofName

def ConfigKind.ofJson? (j : Json) : Option ConfigKind := j.name?.map ConfigKind.ofName

def ProvenanceSource.ofJson? (j : Json) : Option ProvenanceSource :=
  j.name?.bind ProvenanceSource.ofName?

def Criterion.toJsonWith (number : Binary64 → Json) (c : Criterion) : Json :=
  .object [("propertyName", .string c.property), ("operator", .string c.operator.name),
    ("valueToMatch", .ofOption (Labelled.toJsonWith number) c.toMatch)]

def Criterion.ofJson? (j : Json) : Option Criterion := do
  let ms ← j.record? ["propertyName", "operator", "valueToMatch"]
  let property ← Json.default? ms "propertyName" "" Json.string?
  let operator ← Json.required? ms "operator" Operator.ofJson?
  let toMatch ← Json.default? ms "valueToMatch" none (Json.optionOf? Labelled.ofJson?)
  some ⟨property, operator, toMatch⟩

def ConditionalValue.toJsonWith (number : Binary64 → Json) (v : ConditionalValue) : Json :=
  .object [("criteria", .array (v.criteria.map (Criterion.toJsonWith number))),
    ("value", v.value.toJsonWith number)]

def ConditionalValue.ofJson? (j : Json) : Option ConditionalValue := do
  let ms ← j.record? ["criteria", "value"]
  let criteria ← Json.default? ms "criteria" [] (Json.listOf? Criterion.ofJson?)
  let value ← Json.required? ms "value" Labelled.ofJson?
  some ⟨criteria, value⟩

def Row.toJsonWith (number : Binary64 → Json) (r : Row) : Json :=
  .object [("projectEnvId", .ofOption .ofInt64 r.environment),
    ("properties", .ofTable (Labelled.toJsonWith number) r.properties),
    ("values", .array (r.values.map (ConditionalValue.toJsonWith number)))]

def Row.ofJson? (j : Json) : Option Row := do
  let ms ← j.record? ["projectEnvId", "properties", "values"]
  let environment ← Json.default? ms "projectEnvId" none (Json.optionOf? Json.int64?)
  let properties ← Json.default? ms "properties" .empty (Json.tableOf? Labelled.ofJson?)
  let values ← Json.default? ms "values" [] (Json.listOf? ConditionalValue.ofJson?)
  some ⟨environment, properties, values⟩

def Config.toJsonWith (number : Binary64 → Json) (c : Config) : Json :=
  .object [("key", .string c.key), ("id", .ofInt64 c.id), ("configType", .string c.kind.name),
    ("valueType", .ofOption (fun t => .string t.name) c.valueType),
    ("rows", .array (c.rows.map (Row.toJsonWith number))),
    ("allowableValues", .array (c.allowableValues.map (Labelled.toJsonWith number)))]

def Config.toJson (c : Config) : Json := c.toJsonWith .ofBinary64

def Config.ofJson? (j : Json) : Option Config := do
  let ms ← j.record? ["key", "id", "configType", "valueType", "rows", "allowableValues"]
  let key ← Json.required? ms "key" Json.string?
  let id ← Json.required? ms "id" Json.int64?
  let kind ← Json.required? ms "configType" ConfigKind.ofJson?
  let valueType ← Json.default? ms "valueType" none (Json.optionOf? ValueType.ofJson?)
  let rows ← Json.default? ms "rows" [] (Json.listOf? Row.ofJson?)
  let allowable ← Json.default? ms "allowableValues" [] (Json.listOf? Labelled.ofJson?)
  some ⟨key, id, kind, valueType, rows, allowable⟩

def Provenance.toJson (p : Provenance) : Json :=
  .object [("source", .string p.source.name), ("location", .ofOption .string p.location)]

def Provenance.ofJson? (j : Json) : Option Provenance := do
  let ms ← j.record? ["source", "location"]
  let source ← Json.required? ms "source" ProvenanceSource.ofJson?
  let location ← Json.default? ms "location" none (Json.optionOf? Json.string?)
  some ⟨source, location⟩

end LiveConfig
