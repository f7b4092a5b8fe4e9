import LiveConfig.Proofs.Value.Format
import LiveConfig.Rule.Json

/-! Configs in their data format.

A config whose doubles are finite is written as a document that is read as this config, and every
well-formed document that is read as a config gives one whose doubles are finite. So whatever has
been read can be written and read again without a change, also if members of the document were
missing, were ignored or had names that became unknown ones. -/
namespace LiveConfig

/-- The values in a conditional value, those of its criteria included. -/
def ConditionalValue.contents (v : ConditionalValue) : List ConfigValue :=
  v.value :: v.criteria.filterMap Criterion.toMatch

def Row.contents (r : Row) : List ConfigValue :=
  r.properties.values ++ r.values.flatMap ConditionalValue.contents

def Config.contents (c : Config) : List ConfigValue :=
  c.rows.flatMap Row.contents ++ c.allowableValues

/-- Whether every double in some values is finite. -/
def AllFinite (vs : List ConfigValue) : Prop := ∀ v ∈ vs, v.value.Finite

instance (vs : List ConfigValue) : Decidable (AllFinite vs) :=
  inferInstanceAs (Decidable (∀ v ∈ vs, v.value.Finite))

theorem allFinite_cons {v : ConfigValue} {vs : List ConfigValue} :
    AllFinite (v :: vs) ↔ v.value.Finite ∧ AllFinite vs := List.forall_mem_cons

theorem allFinite_append {vs ws : List ConfigValue} :
    AllFinite (vs ++ ws) ↔ AllFinite vs ∧ AllFinite ws := List.forall_mem_append

section Equal

theorem beq_list {α : Type} [BEq α] {xs : List α} (each : ∀ x ∈ xs, (x == x) = true) :
    (xs == xs) = true := by
  induction xs with
  | nil => rfl
  | cons x xs ih =>
    obtain ⟨first, rest⟩ := List.forall_mem_cons.mp each
    rw [List.cons_beq_cons, first, ih rest]
    rfl

theorem Table.beq_self {α : Type} [BEq α] {t : Table α}
    (each : ∀ v ∈ t.values, (v == v) = true) : (t == t) = true := by
  refine Bool.and_eq_true_iff.mpr ⟨BEq.rfl, List.all_eq_true.mpr ?_⟩
  intro e member
  have found : t.get? e.1 = some e.2 := get?_of_mem_entries member
  simp only [found]
  exact each e.2 (List.mem_map_of_mem member)

theorem Labelled.beq_self {v : ConfigValue} (finite : v.value.Finite) : (v == v) = true :=
  Bool.and_eq_true_iff.mpr ⟨Value.beq_self_of_finite finite, BEq.rfl⟩

theorem Criterion.beq_self {c : Criterion} (finite : ∀ v, c.toMatch = some v → v.value.Finite) :
    (c == c) = true := by
  obtain ⟨property, operator, toMatch⟩ := c
  have held : (toMatch == toMatch) = true := by
    cases toMatch with
    | none => rfl
    | some v => exact Labelled.beq_self (finite v rfl)
  change (property == property && (operator == operator && toMatch == toMatch)) = true
  rw [held, BEq.rfl, BEq.rfl]
  rfl

theorem ConditionalValue.beq_self {v : ConditionalValue} (finite : AllFinite v.contents) :
    (v == v) = true := by
  obtain ⟨value, others⟩ := allFinite_cons.mp finite
  have criteria : (v.criteria == v.criteria) = true := by
    apply beq_list
    intro c member
    exact Criterion.beq_self fun w held => others w (List.mem_filterMap.mpr ⟨c, member, held⟩)
  change (v.criteria == v.criteria && v.value == v.value) = true
  rw [criteria, Labelled.beq_self value]
  rfl

theorem Row.beq_self {r : Row} (finite : AllFinite r.contents) : (r == r) = true := by
  obtain ⟨own, inValues⟩ := allFinite_append.mp finite
  have properties : (r.properties == r.properties) = true :=
    Table.beq_self fun v member => Labelled.beq_self (own v member)
  have values : (r.values == r.values) = true := by
    apply beq_list
    intro v member
    exact ConditionalValue.beq_self fun w held =>
      inValues w (List.mem_flatMap.mpr ⟨v, member, held⟩)
  change (r.environment == r.environment && (r.properties == r.properties &&
    r.values == r.values)) = true
  rw [properties, values, BEq.rfl]
  rfl

/-- A config whose doubles are finite is equal to itself. -/
theorem Config.beq_self {c : Config} (finite : AllFinite c.contents) : (c == c) = true := by
  obtain ⟨inRows, allowable⟩ := allFinite_append.mp finite
  have rows : (c.rows == c.rows) = true := by
    apply beq_list
    intro r member
    exact Row.beq_self fun v held => inRows v (List.mem_flatMap.mpr ⟨r, member, held⟩)
  have values : (c.allowableValues == c.allowableValues) = true :=
    beq_list fun v member => Labelled.beq_self (allowable v member)
  change (c.key == c.key && (c.id == c.id && (c.kind == c.kind && (c.valueType == c.valueType &&
    (c.rows == c.rows && c.allowableValues == c.allowableValues))))) = true
  rw [rows, values, BEq.rfl, BEq.rfl, BEq.rfl, BEq.rfl]
  rfl

end Equal

section Written

open Json

theorem Operator.ofJson?_name (o : Operator) : ofJson? (.string o.name) = some o :=
  congrArg some (ofName_name o)

theorem Criterion.ofJson?_toJsonWith (c : Criterion)
    (finite : ∀ v, c.toMatch = some v → v.value.Finite) :
    ofJson? (c.toJsonWith .ofBinary64) = some c := by
  have toMatch : optionOf? Labelled.ofJson?
      (ofOption (Labelled.toJsonWith .ofBinary64) c.toMatch) = some c.toMatch :=
    optionOf?_ofOption (fun v held => v.ofJson?_toJsonWith (finite v held)) fun v => by rintro ⟨⟩
  unfold ofJson? toJsonWith
  rw [record?_object (by simp [once])]
  simp [toMatch, Operator.ofJson?_name, string?]

theorem ConditionalValue.ofJson?_toJsonWith (v : ConditionalValue) (finite : AllFinite v.contents) :
    ofJson? (v.toJsonWith .ofBinary64) = some v := by
  obtain ⟨value, others⟩ := allFinite_cons.mp finite
  have criteria : listOf? Criterion.ofJson?
      (.array (v.criteria.map (Criterion.toJsonWith .ofBinary64))) = some v.criteria := by
    apply listOf?_map
    intro c member
    exact c.ofJson?_toJsonWith fun w held =>
      others w (List.mem_filterMap.mpr ⟨c, member, held⟩)
  unfold ofJson? toJsonWith
  rw [record?_object (by simp [once])]
  simp [criteria, v.value.ofJson?_toJsonWith value]

theorem Row.ofJson?_toJsonWith (r : Row) (finite : AllFinite r.contents) :
    ofJson? (r.toJsonWith .ofBinary64) = some r := by
  obtain ⟨own, inValues⟩ := allFinite_append.mp finite
  have environment : optionOf? int64? (ofOption ofInt64 r.environment) = some r.environment :=
    optionOf?_ofOption (fun n _ => int64?_ofInt64 n) fun n => by rintro ⟨⟩
  have properties : tableOf? Labelled.ofJson?
      (ofTable (Labelled.toJsonWith .ofBinary64) r.properties) = some r.properties := by
    apply tableOf?_ofTable
    intro e member
    exact e.2.ofJson?_toJsonWith (own e.2 (List.mem_map_of_mem member))
  have values : listOf? ConditionalValue.ofJson?
      (.array (r.values.map (ConditionalValue.toJsonWith .ofBinary64))) = some r.values := by
    apply listOf?_map
    intro v member
    exact v.ofJson?_toJsonWith fun w held => inValues w (List.mem_flatMap.mpr ⟨v, member, held⟩)
  unfold ofJson? toJsonWith
  rw [record?_object (by simp [once])]
  simp [environment, properties, values]

/-- What a config is written as is read as this config. -/
theorem Config.ofJson?_toJson (c : Config) (finite : AllFinite c.contents) :
    ofJson? c.toJson = some c := by
  obtain ⟨inRows, allowable⟩ := allFinite_append.mp finite
  have kind : ConfigKind.ofJson? (.string c.kind.name) = some c.kind :=
    congrArg some (ConfigKind.ofName_name c.kind)
  have valueType : optionOf? ValueType.ofJson? (ofOption (fun t => .string t.name) c.valueType) =
      some c.valueType :=
    optionOf?_ofOption (fun t _ => ValueType.ofName?_name t) fun t => by rintro ⟨⟩
  have rows : listOf? Row.ofJson? (.array (c.rows.map (Row.toJsonWith .ofBinary64))) =
      some c.rows := by
    apply listOf?_map
    intro r member
    exact r.ofJson?_toJsonWith fun v held => inRows v (List.mem_flatMap.mpr ⟨r, member, held⟩)
  have values : listOf? Labelled.ofJson?
      (.array (c.allowableValues.map (Labelled.toJsonWith .ofBinary64))) =
        some c.allowableValues :=
    listOf?_map fun v member => v.ofJson?_toJsonWith (allowable v member)
  unfold ofJson? toJson toJsonWith
  rw [record?_object (by simp [once])]
  simp [kind, valueType, rows, values, string?, int64?_ofInt64]

theorem Criterion.wellFormed_toJsonWith (c : Criterion) :
    (c.toJsonWith .ofBinary64).WellFormed := by
  have toMatch : (ofOption (Labelled.toJsonWith .ofBinary64) c.toMatch).WellFormed :=
    wellFormed_ofOption Labelled.wellFormed_toJsonWith
  simp [toJsonWith, toMatch]

theorem ConditionalValue.wellFormed_toJsonWith (v : ConditionalValue) :
    (v.toJsonWith .ofBinary64).WellFormed := by
  simp [toJsonWith, Criterion.wellFormed_toJsonWith, Labelled.wellFormed_toJsonWith]

theorem Row.wellFormed_toJsonWith (r : Row) : (r.toJsonWith .ofBinary64).WellFormed := by
  have environment : (ofOption ofInt64 r.environment).WellFormed :=
    wellFormed_ofOption wellFormed_ofInt64
  have properties : (ofTable (Labelled.toJsonWith .ofBinary64) r.properties).WellFormed :=
    wellFormed_ofTable Labelled.wellFormed_toJsonWith
  simp [toJsonWith, environment, properties, ConditionalValue.wellFormed_toJsonWith]

theorem Config.wellFormed_toJson (c : Config) : c.toJson.WellFormed := by
  have valueType : (ofOption (fun t => .string t.name) c.valueType).WellFormed :=
    wellFormed_ofOption fun t : ValueType => .string t.name
  simp [toJson, toJsonWith, valueType, Row.wellFormed_toJsonWith, Labelled.wellFormed_toJsonWith]

end Written

section Accepted

variable {j : Json}

open Json

theorem Criterion.finite_of_ofJson? (formed : j.WellFormed) {c : Criterion}
    (read : ofJson? j = some c) : ∀ v, c.toMatch = some v → v.value.Finite := by
  simp only [ofJson?, Option.bind_eq_bind, Option.bind_eq_some_iff] at read
  obtain ⟨ms, record, _, _, _, _, toMatch, given, made⟩ := read
  cases made
  rintro v rfl
  rcases of_default? (formed.of_record? record) given with missing | ⟨i, formed, spelled⟩
  · cases missing
  · exact formed.readsFinite.labelled v (of_optionOf? spelled)

theorem ConditionalValue.finite_of_ofJson? (formed : j.WellFormed) {v : ConditionalValue}
    (read : ofJson? j = some v) : AllFinite v.contents := by
  simp only [ofJson?, Option.bind_eq_bind, Option.bind_eq_some_iff] at read
  obtain ⟨ms, record, criteria, list, value, spelled, made⟩ := read
  cases made
  have members := formed.of_record? record
  refine allFinite_cons.mpr ⟨?_, ?_⟩
  · obtain ⟨i, formed, made⟩ := of_required? members spelled
    exact formed.readsFinite.labelled value made
  · intro w held
    obtain ⟨c, member, matched⟩ := List.mem_filterMap.mp held
    obtain ⟨i, formed, made⟩ := of_default_listOf? members list member
    exact Criterion.finite_of_ofJson? formed made w matched

theorem Row.finite_of_ofJson? (formed : j.WellFormed) {r : Row} (read : ofJson? j = some r) :
    AllFinite r.contents := by
  simp only [ofJson?, Option.bind_eq_bind, Option.bind_eq_some_iff] at read
  obtain ⟨ms, record, _, _, properties, table, values, list, made⟩ := read
  cases made
  have members := formed.of_record? record
  refine allFinite_append.mpr ⟨?_, ?_⟩
  · intro v held
    obtain ⟨⟨key, _⟩, entry, rfl⟩ := List.mem_map.mp held
    obtain ⟨i, formed, made⟩ :=
      of_default_tableOf? members table (Table.get?_of_mem_entries entry)
    exact formed.readsFinite.labelled _ made
  · intro v held
    obtain ⟨w, member, inside⟩ := List.mem_flatMap.mp held
    obtain ⟨i, formed, made⟩ := of_default_listOf? members list member
    exact ConditionalValue.finite_of_ofJson? formed made v inside

/-- What a well-formed document is read as is finite. -/
theorem Config.finite_of_ofJson? (formed : j.WellFormed) {c : Config}
    (read : ofJson? j = some c) : AllFinite c.contents := by
  simp only [ofJson?, Option.bind_eq_bind, Option.bind_eq_some_iff] at read
  obtain ⟨ms, record, _, _, _, _, _, _, _, _, rows, list, allowable, others, made⟩ := read
  cases made
  have members := formed.of_record? record
  refine allFinite_append.mpr ⟨?_, ?_⟩
  · intro v held
    obtain ⟨r, member, inside⟩ := List.mem_flatMap.mp held
    obtain ⟨i, formed, made⟩ := of_default_listOf? members list member
    exact Row.finite_of_ofJson? formed made v inside
  · intro v member
    obtain ⟨i, formed, made⟩ := of_default_listOf? members others member
    exact formed.readsFinite.labelled v made

end Accepted

end LiveConfig
