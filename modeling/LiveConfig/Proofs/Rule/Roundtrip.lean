import LiveConfig.Proofs.Json.Text
import LiveConfig.Proofs.Rule.Format

/-! The way of a config through its data format and back.

On this way nothing is lost: neither as a document, where every part is written under the name by
which it is read, nor as text, where the shortest decimal of a double is rounded to it again. What
has been read from a text has only finite doubles, so it survives too, whatever was missing in the
text, was ignored, or had a name that became an unknown one. -/
namespace LiveConfig

/-- What is read of a config that was written is this config, which is equal to itself. -/
structure Config.Survives (c : Config) : Prop where
  document : ofJson? c.toJson = some c
  text : (Json.read? c.toJson.write).bind ofJson? = some c
  equal : (c == c) = true

theorem Config.survives_of_finite {c : Config} (finite : AllFinite c.contents) : c.Survives where
  document := c.ofJson?_toJson finite
  text := by
    rw [Json.read?_write c.wellFormed_toJson]
    exact c.ofJson?_toJson finite
  equal := Config.beq_self finite

/-- A config whose doubles are finite survives, and so does every config that a text was read
as. -/
theorem Config.roundtrip :
    (∀ c : Config, AllFinite c.contents → c.Survives) ∧
      ∀ s j c, Json.read? s = some j → ofJson? j = some c → c.Survives := by
  constructor
  · intro c finite
    exact survives_of_finite finite
  · intro s j c text document
    exact survives_of_finite (finite_of_ofJson? (Json.wellFormed_of_read? text) document)

/-- A config with a value of every kind, one of them in a distribution inside a distribution. -/
def Config.assorted : Config where
  key := "assorted"
  id := Int64.minValue
  kind := .unknown
  valueType := some .string
  rows := [
    { environment := some Int64.maxValue
      properties := Table.ofList [("range", ⟨.range ⟨some Int64.minValue, none⟩, true⟩)]
      values := [
        { criteria := [⟨"user.email", .unknown, some ⟨.double (.ofRatio true 1 3), false⟩⟩]
          value := ⟨.weighted ⟨[
            ⟨4294967295, ⟨.weighted ⟨[⟨1, ⟨.bytes [0, 255], true⟩⟩], none⟩, false⟩⟩,
            ⟨0, ⟨.reference ⟨.unknown, "KEY"⟩, false⟩⟩], some "user.id"⟩, false⟩ }] }]
  allowableValues := [⟨.duration ⟨18446744073709551615, 999999999, by decide⟩, false⟩,
    ⟨.int Int64.minValue, false⟩, ⟨.double (.zero true), false⟩, ⟨.stringList ["a", "\""], false⟩]

/-- A document with defaults, a member that is ignored, and a name of a kind that is unknown. -/
def Json.sparse : Json := .object [("key", .string "sparse"), ("id", .ofInt64 (-9)),
  ("configType", .string "NEW"), ("note", .array [.null])]

theorem Config.survives_assorted : AllFinite assorted.contents ∧ assorted.Survives ∧
    ∃ c, ofJson? Json.sparse = some c ∧ c.kind = .unknown ∧ c.Survives := by
  have finite : AllFinite assorted.contents := by decide +kernel
  have formed : Json.sparse.WellFormed := by simp [Json.sparse]
  have read : ofJson? Json.sparse = some ⟨"sparse", -9, .unknown, none, [], []⟩ := by rfl
  exact ⟨finite, Config.roundtrip.1 assorted finite, _, read, rfl,
    Config.roundtrip.2 Json.sparse.write Json.sparse _ (Json.read?_write formed) read⟩

end LiveConfig
