import LiveConfig.Json.Basic
import LiveConfig.Proofs.Table

/-! Views of JSON that is written from data.

What is written item by item, as an option or as a table is read back by the matching view if every
item is. Conversely, whatever a view finds is made from an item of the document. -/
namespace LiveConfig.Json

/-- A document of which text can spell every number: 64 bits hold the integers, signed or not, and
the others are finite. -/
inductive WellFormed : Json → Prop
  | null : WellFormed .null
  | bool (b : Bool) : WellFormed (.bool b)
  | int {n : Int} : Int64.minValue.toInt ≤ n → n < Int.ofNat UInt64.size → WellFormed (.int n)
  | number {x : Binary64} : x.isFinite = true → WellFormed (.number x)
  | string (s : String) : WellFormed (.string s)
  | array {items : List Json} : (∀ j ∈ items, WellFormed j) → WellFormed (.array items)
  | object {members : List (String × Json)} :
      (∀ m ∈ members, WellFormed m.2) → WellFormed (.object members)

variable {α : Type} {f : Json → Option α} {g : α → Json}

theorem int64?_ofInt64 (n : Int64) : int64? (ofInt64 n) = some n := Decimal.toInt64?_toInt n

theorem below?_int {n bound : Nat} (below : n < bound) : below? bound (.int n) = some n := by
  have inside : (0 : Int) ≤ n ∧ (n : Int) < bound := ⟨Int.natCast_nonneg n, Int.ofNat_lt.mpr below⟩
  simp only [below?, if_pos inside, Int.toNat_natCast]

section Records

variable {names : List String} {ms : List (String × Json)} {name : String}

theorem record?_object (distinct : once names ms = true) : record? names (.object ms) = some ms :=
  if_pos distinct

@[simp] theorem required?_cons (m : String × Json) :
    required? (m :: ms) name f = if name = m.1 then f m.2 else required? ms name f := by
  unfold required?
  rw [List.lookup_cons]
  by_cases same : name = m.1
  · simp [same]
  · have apart : (name == m.1) = false := by simp [same]
    simp [same, apart]

@[simp] theorem default?_cons (m : String × Json) (missing : α) :
    default? (m :: ms) name missing f =
      if name = m.1 then f m.2 else default? ms name missing f := by
  unfold default?
  rw [List.lookup_cons]
  by_cases same : name = m.1
  · simp [same]
  · have apart : (name == m.1) = false := by simp [same]
    simp [same, apart]

end Records

theorem mapM_map {β : Type} {read : β → Option α} {write : α → β} {xs : List α}
    (each : ∀ x ∈ xs, read (write x) = some x) : (xs.map write).mapM read = some xs := by
  induction xs with
  | nil => rfl
  | cons x xs ih =>
    obtain ⟨first, rest⟩ := List.forall_mem_cons.mp each
    rw [List.map_cons, List.mapM_cons, first, ih rest]
    rfl

theorem listOf?_map {xs : List α} (each : ∀ x ∈ xs, f (g x) = some x) :
    listOf? f (.array (xs.map g)) = some xs :=
  mapM_map each

theorem optionOf?_ofOption {o : Option α} (each : ∀ a, o = some a → f (g a) = some a)
    (present : ∀ a, g a ≠ .null) : optionOf? f (ofOption g o) = some o := by
  cases o with
  | none => rfl
  | some a =>
    change optionOf? f (g a) = some (some a)
    unfold optionOf?
    split
    · rename_i absent
      exact absurd absent (present a)
    · rw [each a rfl]
      rfl

theorem tableOf?_ofTable {t : Table α} (each : ∀ e ∈ t.entries, f (g e.2) = some e.2) :
    tableOf? f (ofTable g t) = some t := by
  have entries : (t.entries.map fun e => (e.1, g e.2)).mapM
      (fun m => (f m.2).map fun v => (m.1, v)) = some t.entries := by
    apply mapM_map
    intro e member
    rw [each e member]
    rfl
  unfold tableOf? ofTable object?
  rw [Option.bind_some, entries]
  exact congrArg some t.ofList_entries

section Written

attribute [simp] WellFormed.null WellFormed.bool WellFormed.string

@[simp] theorem wellFormed_array {items : List Json} :
    (array items).WellFormed ↔ ∀ j ∈ items, j.WellFormed :=
  ⟨fun | .array each => each, .array⟩

@[simp] theorem wellFormed_object {members : List (String × Json)} :
    (object members).WellFormed ↔ ∀ m ∈ members, m.2.WellFormed :=
  ⟨fun | .object each => each, .object⟩

/-- A word of at most 64 bits. -/
theorem wellFormed_natCast {n : Nat} (fits : n < UInt64.size) : (int n).WellFormed := by
  have least : Int64.minValue.toInt ≤ 0 := by decide
  exact .int (Int.le_trans least (Int.natCast_nonneg n)) (Int.ofNat_lt.mpr fits)

@[simp] theorem wellFormed_ofInt64 (n : Int64) : (ofInt64 n).WellFormed := by
  have most := n.toInt_le
  have least : Int64.maxValue.toInt < Int.ofNat UInt64.size := by decide
  exact .int n.minValue_le_toInt (Int.lt_of_le_of_lt most least)

@[simp] theorem wellFormed_ofBinary64 (x : Binary64) : (ofBinary64 x).WellFormed := by
  unfold ofBinary64
  split
  · exact .number ‹_›
  · exact .null

theorem wellFormed_ofOption {o : Option α} (each : ∀ a, (g a).WellFormed) :
    (ofOption g o).WellFormed := by
  cases o with
  | none => exact .null
  | some a => exact each a

theorem wellFormed_ofTable {t : Table α} (each : ∀ a, (g a).WellFormed) :
    (ofTable g t).WellFormed := by
  refine .object fun m inside => ?_
  obtain ⟨e, _, rfl⟩ := List.mem_map.mp inside
  exact each e.2

end Written

/-- Members of which every one can be read give one entry each, under the same key. -/
theorem map_of_mapM {members : List (String × Json)}
    {es : List (String × α)}
    (read : (members.mapM fun m => (f m.2).map fun v => (m.1, v)) = some es) :
    (es.map fun e => (e.1, some e.2)) = members.map fun m => (m.1, f m.2) := by
  induction members generalizing es with
  | nil =>
    cases read
    rfl
  | cons m members ih =>
    simp only [List.mapM_cons, Option.bind_eq_bind, Option.bind_eq_some_iff, Option.map_eq_some_iff,
      Option.pure_def, Option.some.injEq] at read
    obtain ⟨_, ⟨v, first, rfl⟩, rest, later, rfl⟩ := read
    simp [first, ih later]

/-- Of the members under a key a table holds the last. -/
theorem get?_of_tableOf? {members : List (String × Json)}
    {t : Table α} (read : tableOf? f (.object members) = some t) (key : String) :
    t.get? key = (members.reverse.lookup key).bind f := by
  obtain ⟨es, entries, rfl⟩ := Option.map_eq_some_iff.mp read
  have same := congrArg (fun es => es.reverse.lookup key) (map_of_mapM entries)
  simp only [← List.map_reverse, Table.lookup_map] at same
  unfold Table.ofList
  rw [Table.get?_insertAll, Table.get?_empty, Option.or_none]
  cases member : members.reverse.lookup key with
  | none => simpa [member] using same
  | some j =>
    rw [member, Option.map_some, Option.map_eq_some_iff] at same
    obtain ⟨v, found, read⟩ := same
    rw [found, read, Option.bind_some]

/-- Items of which every one can be read give one value each. -/
theorem mem_of_mapM {β : Type} {read : β → Option α} {xs : List β} {ys : List α}
    (all : xs.mapM read = some ys) {y : α} (member : y ∈ ys) : ∃ x ∈ xs, read x = some y := by
  induction xs generalizing ys with
  | nil =>
    cases all
    cases member
  | cons x xs ih =>
    simp only [List.mapM_cons, Option.bind_eq_bind, Option.bind_eq_some_iff, Option.pure_def,
      Option.some.injEq] at all
    obtain ⟨y', first, rest, later, rfl⟩ := all
    rcases List.mem_cons.mp member with rfl | member
    · exact ⟨x, List.mem_cons_self, first⟩
    · obtain ⟨x', inside, made⟩ := ih later member
      exact ⟨x', List.mem_cons_of_mem x inside, made⟩

section Accepted

variable {j : Json} {ms : List (String × Json)} {name : String} {a : α}

theorem of_optionOf? (read : optionOf? f j = some (some a)) : f j = some a := by
  unfold optionOf? at read
  split at read
  · cases read
  · obtain ⟨_, made, ⟨⟩⟩ := Option.map_eq_some_iff.mp read
    exact made

/-- The members of a record are parts of the document. -/
theorem WellFormed.of_record? {names : List String} (formed : j.WellFormed)
    (read : record? names j = some ms) : ∀ m ∈ ms, m.2.WellFormed := by
  unfold record? at read
  split at read
  · split at read
    · cases read
      cases formed with
      | object members => exact members
    · cases read
  · split at read
    · cases read
      cases formed with
      | array items => exact fun m member => items m.2 (List.of_mem_zip member).2
    · cases read
  · cases read

variable (formed : ∀ m ∈ ms, m.2.WellFormed)
include formed

theorem of_required? (read : required? ms name f = some a) : ∃ i, i.WellFormed ∧ f i = some a := by
  obtain ⟨i, present, made⟩ := Option.bind_eq_some_iff.mp read
  exact ⟨i, formed (name, i) (Table.mem_of_lookup present), made⟩

theorem of_default? {missing : α} (read : default? ms name missing f = some a) :
    a = missing ∨ ∃ i, i.WellFormed ∧ f i = some a := by
  unfold default? at read
  split at read
  · rename_i i present
    exact .inr ⟨i, formed (name, i) (Table.mem_of_lookup present), read⟩
  · exact .inl (Option.some.inj read).symm

/-- An item of a list that may be missing. -/
theorem of_default_listOf? {as : List α} (read : default? ms name [] (listOf? f) = some as)
    (member : a ∈ as) : ∃ i, i.WellFormed ∧ f i = some a := by
  rcases of_default? formed read with rfl | ⟨i, formed, list⟩
  · cases member
  · cases formed with
    | array items =>
      obtain ⟨i, inside, made⟩ := mem_of_mapM list member
      exact ⟨i, items i inside, made⟩
    | _ => cases list

/-- A value of a table that may be missing. -/
theorem of_default_tableOf? {t : Table α} {key : String}
    (read : default? ms name .empty (tableOf? f) = some t) (found : t.get? key = some a) :
    ∃ i, i.WellFormed ∧ f i = some a := by
  rcases of_default? formed read with rfl | ⟨i, formed, table⟩
  · cases found
  · cases formed with
    | object members =>
      rw [get?_of_tableOf? table, Option.bind_eq_some_iff] at found
      obtain ⟨i, present, made⟩ := found
      exact ⟨i, members (key, i) (List.mem_reverse.mp (Table.mem_of_lookup present)), made⟩
    | _ => cases table

end Accepted

end LiveConfig.Json
