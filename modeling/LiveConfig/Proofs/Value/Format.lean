import LiveConfig.Proofs.Binary64.Fields
import LiveConfig.Proofs.Json.Views
import LiveConfig.Proofs.Value.Equality
import LiveConfig.Value.Json

/-! Values in their data format.

A value is written under the name of its kind, which is never the name of the label, so what is
written is read back: kind by kind, and for a distribution by induction, since the values of its
variants are written in the same way. Doubles have to be finite, because others have no spelling. A
document whose numbers are finite gives only finite doubles. -/
namespace LiveConfig

/-- The doubles in a value, at any depth. -/
def Value.doubles : Value → List Binary64
  | .double x => [x]
  | .weighted ⟨vs, _⟩ => variants vs
  | _ => []
where
  variants : List (Variant (Labelled Value)) → List Binary64
    | [] => []
    | ⟨_, ⟨v, _⟩⟩ :: vs => v.doubles ++ variants vs

theorem Value.mem_doubles_variants {x : Binary64} {vs : List (Variant ConfigValue)} :
    x ∈ doubles.variants vs ↔ ∃ v ∈ vs, x ∈ v.value.value.doubles := by
  induction vs with
  | nil => simp [doubles.variants]
  | cons v vs ih => simp [doubles.variants, ih]

theorem Value.hasNaN_variants {vs : List (Variant ConfigValue)} :
    hasNaN.variants vs = false ↔ ∀ x ∈ vs, x.value.value.hasNaN = false := by
  induction vs with
  | nil => simp [hasNaN.variants]
  | cons x vs ih => simp [hasNaN.variants, ih]

/-- Whether every double in a value is finite. -/
def Value.Finite (v : Value) : Prop := ∀ x ∈ v.doubles, x.isFinite = true

instance (v : Value) : Decidable v.Finite :=
  inferInstanceAs (Decidable (∀ x ∈ v.doubles, x.isFinite = true))

theorem Value.finite_weighted {d : WeightedValues} :
    (weighted d).Finite ↔ ∀ v ∈ d.variants, v.value.value.Finite := by
  constructor
  · intro finite v member x inside
    exact finite x (mem_doubles_variants.mpr ⟨v, member, inside⟩)
  · intro finite x inside
    obtain ⟨v, member, inside⟩ := mem_doubles_variants.mp inside
    exact finite v member x inside

/-- A value whose doubles are finite is equal to itself. -/
theorem Value.beq_self_of_finite {v : Value} (finite : v.Finite) : (v == v) = true := by
  have numbers : v.hasNaN = false := by
    induction v using Value.induction with
    | single v other =>
      cases v with
      | weighted d => exact (other d rfl).elim
      | double x => exact Binary64.isNaN_of_isFinite (finite x List.mem_cons_self)
      | _ => rfl
    | weighted d ih =>
      obtain ⟨vs, h⟩ := d
      rw [hasNaN, hasNaN_variants]
      exact fun x member => ih x member (finite_weighted.mp finite x member)
  exact (Value.beq_self v).trans (by rw [numbers]; rfl)

/-- The parts of a duration are as they were carried. -/
theorem Duration.ofParts?_parts (d : Duration) :
    ofParts? d.secs.toNat d.nanos.toNat = some d := by
  have small := d.nanos_lt
  have whole : d.secs.toNat + d.nanos.toNat / 1000000000 = d.secs.toNat := by omega
  have part : d.nanos.toNat % 1000000000 = d.nanos.toNat := Nat.mod_eq_of_lt small
  simp [ofParts?, whole, part, d.secs.toNat_lt]

theorem Duration.ofJson?_toJson (d : Duration) : ofJson? d.toJson = some d := by
  let members : List (String × Json) :=
    [("secs", .int d.secs.toNat), ("nanos", .int d.nanos.toNat)]
  have exact' : d.toJson.exactRecord? ["secs", "nanos"] = some members := by
    unfold toJson Json.exactRecord?
    rw [Json.record?_object (by simp [Json.once])]
    exact Option.filter_some_pos (by simp)
  have secs : Json.required? members "secs" (Json.below? UInt64.size) = some d.secs.toNat := by
    rw [Json.required?_cons, if_pos rfl]
    exact Json.below?_int d.secs.toNat_lt_size
  have nanos : Json.required? members "nanos" (Json.below? UInt32.size) = some d.nanos.toNat := by
    rw [Json.required?_cons, if_neg (by simp), Json.required?_cons, if_pos rfl]
    exact Json.below?_int d.nanos.toNat_lt_size
  unfold ofJson?
  rw [exact', Option.bind_eq_bind, Option.bind_some, secs, Option.bind_eq_bind, Option.bind_some,
    nanos, Option.bind_some, ofParts?_parts]

theorem IntRange.ofJson?_toJson (r : IntRange) : ofJson? r.toJson = some r := by
  have bound (n : Option Int64) :
      Json.optionOf? Json.int64? (.ofOption .ofInt64 n) = some n :=
    Json.optionOf?_ofOption (fun n _ => Json.int64?_ofInt64 n) fun n => by rintro ⟨⟩
  unfold ofJson? toJson
  rw [Json.record?_object (by simp [Json.once])]
  simp [bound]

theorem ReferenceSource.ofName_name (s : ReferenceSource) : ofName s.name = s := by
  cases s <;> decide

namespace Value

/-- A value that holds no others is read from the member that spells it. -/
theorem leafOfJson?_member (v : Value) (single : ∀ d, v ≠ .weighted d) (finite : v.Finite) :
    (v.member .ofBinary64).1 ≠ "weightedValues" ∧
      leafOfJson? (v.member .ofBinary64).1 (v.member .ofBinary64).2 = some (some v) := by
  cases v with
  | weighted d => exact (single d rfl).elim
  | string s => simp [member, leafOfJson?, Json.string?]
  | int n => simp [member, leafOfJson?, Json.int64?_ofInt64]
  | double x =>
    have spelled : Json.ofBinary64 x = .number x := if_pos (finite x List.mem_cons_self)
    simp [member, leafOfJson?, spelled, Binary64.ofJson?]
  | bool b => simp [member, leafOfJson?, Json.bool?]
  | stringList xs =>
    have items : Json.listOf? Json.string? (.array (xs.map .string)) = some xs :=
      Json.listOf?_map fun _ _ => rfl
    simp [member, leafOfJson?, items]
  | duration d => simp [member, leafOfJson?, Duration.ofJson?_toJson]
  | logLevel l =>
    simp [member, leafOfJson?, Json.innerName?, Json.constant?, LogLevel.ofName?_name]
  | reference r =>
    have read : Reference.read? Json.innerName? r.toJson = some r := by
      unfold Reference.read? Reference.toJson
      rw [Json.record?_object (by simp [Json.once])]
      simp [Json.innerName?, Json.constant?, Json.string?, ReferenceSource.ofName_name]
    simp [member, leafOfJson?, read]
  | bytes b =>
    have bytes : b.map (fun x => Json.int x.toNat) =
        (b.map UInt8.toNat).map fun n : Nat => Json.int n := by
      rw [List.map_map]
      rfl
    have items : Json.listOf? (Json.below? 256) (.array (b.map fun x => .int x.toNat)) =
        some (b.map UInt8.toNat) := by
      rw [bytes]
      apply Json.listOf?_map
      intro n member
      obtain ⟨x, _, rfl⟩ := List.mem_map.mp member
      exact Json.below?_int x.toNat_lt
    have words : (b.map UInt8.toNat).map UInt8.ofNat = b := by
      simp [Function.comp_def]
    simp only [member, leafOfJson?, items, Option.map_some, words]
    decide
  | range r => simp [member, leafOfJson?, IntRange.ofJson?_toJson]

/-- No kind has the name of the label. -/
theorem member_ne_label (number : Binary64 → Json) (v : Value) :
    (v.member number).1 ≠ "confidential" := by
  cases v with
  | weighted d => simp [member]
  | _ => simp [member]

end Value

theorem Labelled.ofJson?_labelJson {m : String × Json} {v : Value} (c : Bool)
    (label : m.1 ≠ "confidential") (read : ∀ rest, Value.ofMembers? (m :: rest) = some v) :
    Labelled.ofJson? (Value.labelJson m c) = some ⟨v, c⟩ := by
  unfold Value.labelJson Labelled.ofJson?
  rw [if_pos (by simp [Json.once, label]), read]
  simp [Ne.symm label, Json.bool?]

theorem Variant.ofJson?_object {ms : List (String × Json)} {w : Nat} {v : ConfigValue}
    (distinct : Json.once ["weight", "value"] ms = true)
    (weight : Json.required? ms "weight" (Json.below? UInt32.size) = some w)
    (value : valueMember? ms = some v) :
    Variant.ofJson? (.object ms) = some ⟨UInt32.ofNat w, v⟩ := by
  unfold Variant.ofJson?
  rw [if_pos distinct, weight, value]

/-- A variant is read from its weight and its value. -/
theorem Variant.ofJson?_members (w : UInt32) {j : Json} {v : ConfigValue}
    (labelled : Labelled.ofJson? j = some v) :
    Variant.ofJson? (.object [("weight", .int w.toNat), ("value", j)]) = some ⟨w, v⟩ := by
  have weight : Json.required? [("weight", .int w.toNat), ("value", j)] "weight"
      (Json.below? UInt32.size) = some w.toNat := by
    rw [Json.required?_cons, if_pos rfl]
    exact Json.below?_int w.toNat_lt_size
  have value : valueMember? [("weight", .int w.toNat), ("value", j)] = some v := by
    simp [valueMember?, labelled]
  rw [ofJson?_object (by simp [Json.once]) weight value, UInt32.ofNat_toNat]

theorem Variant.listOfJson?_cons {j : Json} {rest : List Json} {v : Variant ConfigValue}
    {vs : List (Variant ConfigValue)} (first : Variant.ofJson? j = some v)
    (later : listOfJson? rest = some vs) : listOfJson? (j :: rest) = some (v :: vs) := by
  unfold listOfJson?
  rw [first, later]

theorem Variant.listOfJson?_items {vs : List (Variant ConfigValue)}
    (each : ∀ x ∈ vs, ∀ rest,
      Value.ofMembers? (x.value.value.member .ofBinary64 :: rest) = some x.value.value) :
    listOfJson? (Value.member.variantItems .ofBinary64 vs) = some vs := by
  induction vs with
  | nil => rfl
  | cons x vs ih =>
    obtain ⟨w, v, c⟩ := x
    obtain ⟨first, later⟩ := List.forall_mem_cons.mp each
    have labelled := Labelled.ofJson?_labelJson c (v.member_ne_label .ofBinary64) first
    have read := ofJson?_members w labelled
    unfold Value.member.variantItems
    exact listOfJson?_cons read (ih later)

namespace Value

/-- A value is read from members that begin with the one that spells it. -/
theorem ofMembers?_member (v : Value) (finite : v.Finite) (rest : List (String × Json)) :
    ofMembers? (v.member .ofBinary64 :: rest) = some v := by
  induction v using induction generalizing rest with
  | single v other =>
    obtain ⟨kind, read⟩ := leafOfJson?_member v other finite
    unfold ofMembers?
    simp only [if_neg kind, read]
  | weighted d ih =>
    obtain ⟨vs, h⟩ := d
    have variants := Variant.listOfJson?_items fun x inside =>
      ih x inside (finite_weighted.mp finite x inside)
    have hashBy : Json.optionOf? Json.string? (.ofOption .string h) = some h :=
      Json.optionOf?_ofOption (fun _ _ => rfl) fun s => by rintro ⟨⟩
    unfold member ofMembers?
    simp only [if_true]
    unfold Distribution.ofJson?
    rw [if_pos (by simp [Json.once])]
    simp [Distribution.variantsMember?, Distribution.variantItems?, variants, hashBy]

end Value

theorem Labelled.ofJson?_toJsonWith (v : ConfigValue) (finite : v.value.Finite) :
    Labelled.ofJson? (v.toJsonWith .ofBinary64) = some v :=
  Labelled.ofJson?_labelJson v.confidential (v.value.member_ne_label .ofBinary64)
    (v.value.ofMembers?_member finite)

section Written

theorem Value.wellFormed_labelJson {m : String × Json} (formed : m.2.WellFormed) (c : Bool) :
    (labelJson m c).WellFormed := by
  simp [labelJson, formed]

theorem Value.wellFormed_variantItems {vs : List (Variant ConfigValue)}
    (each : ∀ x ∈ vs, (x.value.value.member .ofBinary64).2.WellFormed) :
    ∀ j ∈ member.variantItems .ofBinary64 vs, j.WellFormed := by
  induction vs with
  | nil => exact List.forall_mem_nil _
  | cons x vs ih =>
    obtain ⟨w, v, c⟩ := x
    obtain ⟨first, later⟩ := List.forall_mem_cons.mp each
    have weight : (Json.int w.toNat).WellFormed :=
      Json.wellFormed_natCast (Nat.lt_trans w.toNat_lt_size (by decide))
    refine List.forall_mem_cons.mpr ⟨?_, ih later⟩
    simp [weight, wellFormed_labelJson first]

theorem Duration.wellFormed_toJson (d : Duration) : d.toJson.WellFormed := by
  have secs : (Json.int d.secs.toNat).WellFormed := Json.wellFormed_natCast d.secs.toNat_lt_size
  have nanos : (Json.int d.nanos.toNat).WellFormed :=
    Json.wellFormed_natCast (Nat.lt_trans d.nanos.toNat_lt_size (by decide))
  simp [toJson, secs, nanos]

theorem IntRange.wellFormed_toJson (r : IntRange) : r.toJson.WellFormed := by
  have bound (n : Option Int64) : (Json.ofOption .ofInt64 n).WellFormed :=
    Json.wellFormed_ofOption Json.wellFormed_ofInt64
  simp [toJson, bound]

/-- What a value is written as can be spelled. -/
theorem Value.wellFormed_member (v : Value) : (v.member .ofBinary64).2.WellFormed := by
  induction v using induction with
  | single v other =>
    cases v with
    | weighted d => exact (other d rfl).elim
    | duration d => exact d.wellFormed_toJson
    | reference r => simp [member, Reference.toJson]
    | bytes b =>
      have byte (x : UInt8) : (Json.int x.toNat).WellFormed :=
        Json.wellFormed_natCast (Nat.lt_trans x.toNat_lt (by decide))
      simp [member, byte]
    | range r => exact r.wellFormed_toJson
    | _ => simp [member]
  | weighted d ih =>
    obtain ⟨vs, h⟩ := d
    have hashBy : (Json.ofOption .string h).WellFormed := Json.wellFormed_ofOption .string
    simpa [member, hashBy] using wellFormed_variantItems ih

theorem Labelled.wellFormed_toJsonWith (v : ConfigValue) :
    (v.toJsonWith .ofBinary64).WellFormed :=
  Value.wellFormed_labelJson v.value.wellFormed_member v.confidential

end Written

namespace Value

/-- The number that is read for a kind is that of the document. -/
theorem finite_of_leafOfJson? {kind : String} {j : Json} {v : Value} (formed : j.WellFormed)
    (read : leafOfJson? kind j = some (some v)) : v.Finite := by
  unfold leafOfJson? at read
  split at read
  case h_3 =>
    obtain ⟨x, number, rfl⟩ := Option.map_eq_some_iff.mp (Option.some.inj read)
    intro y inside
    rw [List.mem_singleton.mp inside]
    cases formed with
    | number finite =>
      cases number
      exact finite
    | int low high =>
      cases number
      exact Binary64.isFinite_ofInt low high
    | _ => cases number
  case h_11 => cases read
  all_goals
    obtain ⟨_, _, rfl⟩ := Option.map_eq_some_iff.mp (Option.some.inj read)
    exact List.forall_mem_nil _

end Value

/-- Whatever a document is read as, in one of the forms that are read recursively, is finite. -/
structure Json.ReadsFinite (j : Json) : Prop where
  labelled : ∀ v, Labelled.ofJson? j = some v → v.value.Finite
  distribution : ∀ d, Distribution.ofJson? j = some d → (Value.weighted d).Finite
  items : ∀ vs, Distribution.variantItems? j = some vs → ∀ v ∈ vs, v.value.value.Finite
  variant : ∀ v, Variant.ofJson? j = some v → v.value.value.Finite

section Members

variable {ms : List (String × Json)}

theorem Value.finite_of_ofMembers? (formed : ∀ m ∈ ms, m.2.WellFormed)
    (reads : ∀ m ∈ ms, m.2.ReadsFinite) {v : Value} (read : ofMembers? ms = some v) :
    v.Finite := by
  induction ms with
  | nil => cases read
  | cons m ms ih =>
    obtain ⟨kind, j⟩ := m
    obtain ⟨formedFirst, formedRest⟩ := List.forall_mem_cons.mp formed
    obtain ⟨readsFirst, readsRest⟩ := List.forall_mem_cons.mp reads
    unfold ofMembers? at read
    split at read
    · obtain ⟨d, distribution, rfl⟩ := Option.map_eq_some_iff.mp read
      exact readsFirst.distribution d distribution
    · split at read
      · rename_i leaf
        rw [read] at leaf
        exact finite_of_leafOfJson? formedFirst leaf
      · exact ih formedRest readsRest read

theorem Distribution.finite_of_variantsMember? (reads : ∀ m ∈ ms, m.2.ReadsFinite)
    {vs : List (Variant ConfigValue)} (read : variantsMember? ms = some vs) :
    ∀ v ∈ vs, v.value.value.Finite := by
  induction ms with
  | nil => cases read
  | cons m ms ih =>
    obtain ⟨first, rest⟩ := List.forall_mem_cons.mp reads
    unfold variantsMember? at read
    split at read
    · exact first.items vs read
    · exact ih rest read

theorem Variant.finite_of_valueMember? (reads : ∀ m ∈ ms, m.2.ReadsFinite) {v : ConfigValue}
    (read : valueMember? ms = some v) : v.value.Finite := by
  induction ms with
  | nil => cases read
  | cons m ms ih =>
    obtain ⟨first, rest⟩ := List.forall_mem_cons.mp reads
    unfold valueMember? at read
    split at read
    · exact first.labelled v read
    · exact ih rest read

end Members

theorem Variant.finite_of_listOfJson? {items : List Json} (reads : ∀ j ∈ items, j.ReadsFinite)
    {vs : List (Variant ConfigValue)} (read : listOfJson? items = some vs) :
    ∀ v ∈ vs, v.value.value.Finite := by
  induction items generalizing vs with
  | nil =>
    cases read
    exact List.forall_mem_nil _
  | cons j items ih =>
    obtain ⟨first, rest⟩ := List.forall_mem_cons.mp reads
    unfold listOfJson? at read
    split at read
    · rename_i v vs variant later
      cases read
      exact List.forall_mem_cons.mpr ⟨first.variant v variant, ih rest later⟩
    · cases read

/-- A well-formed document gives only finite doubles. -/
theorem Json.WellFormed.readsFinite {j : Json} (formed : j.WellFormed) : j.ReadsFinite := by
  induction formed with
  | object formed reads =>
    constructor
    case labelled =>
      intro v read
      unfold Labelled.ofJson? at read
      split at read
      · split at read
        · rename_i w c value _
          cases read
          exact Value.finite_of_ofMembers? formed reads value
        · cases read
      · cases read
    case distribution =>
      intro d read
      unfold Distribution.ofJson? at read
      split at read
      · split at read
        · rename_i vs h variants _
          cases read
          exact Value.finite_weighted.mpr (Distribution.finite_of_variantsMember? reads variants)
        · cases read
      · cases read
    case items => intro vs read; cases read
    case variant =>
      intro v read
      unfold Variant.ofJson? at read
      split at read
      · split at read
        · rename_i w v _ value
          cases read
          exact Variant.finite_of_valueMember? reads value
        · cases read
      · cases read
  | @array items formed reads =>
    constructor
    case labelled => intro v read; cases read
    case distribution =>
      intro d read
      unfold Distribution.ofJson? at read
      split at read
      case h_1 same => cases same
      case h_2 variants same =>
        cases same
        obtain ⟨vs, given, rfl⟩ := Option.map_eq_some_iff.mp read
        exact Value.finite_weighted.mpr ((reads variants List.mem_cons_self).items vs given)
      case h_3 variants h same =>
        cases same
        split at read
        · rename_i vs _ given _
          cases read
          exact Value.finite_weighted.mpr ((reads variants List.mem_cons_self).items vs given)
        · cases read
      case h_4 => cases read
    case items =>
      intro vs read
      exact Variant.finite_of_listOfJson? reads read
    case variant =>
      intro v read
      unfold Variant.ofJson? at read
      split at read
      case h_1 same => cases same
      case h_2 w v same =>
        cases same
        split at read
        · rename_i w v _ value
          cases read
          exact (reads _ (List.mem_cons_of_mem _ List.mem_cons_self)).labelled v value
        · cases read
      case h_3 => cases read
  | _ =>
    constructor
    all_goals
      intro _ read
      cases read

end LiveConfig
