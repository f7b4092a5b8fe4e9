import LiveConfig.Context.Basic
import LiveConfig.Rule.Json

/-! The data format of contexts. A set is an object that holds each context under a key; the keys
are kept as they are, even where they differ from the names of the contexts. -/
namespace LiveConfig

def Context.toJsonWith (number : Binary64 → Json) (c : Context) : Json :=
  .object [("name", .string c.name),
    ("properties", .ofTable (Labelled.toJsonWith number) c.properties)]

def Context.ofJson? (j : Json) : Option Context := do
  let ms ← j.record? ["name", "properties"]
  let name ← Json.required? ms "name" Json.string?
  let properties ← Json.required? ms "properties" (Json.tableOf? Labelled.ofJson?)
  some ⟨name, properties⟩

def ContextSet.toJsonWith (number : Binary64 → Json) (s : ContextSet) : Json :=
  .ofTable (Context.toJsonWith number) s.contexts

def ContextSet.ofJson? (j : Json) : Option ContextSet :=
  (Json.tableOf? Context.ofJson? j).map fun t => ⟨t⟩

end LiveConfig
