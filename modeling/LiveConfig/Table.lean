/-! Finite tables keyed by text.

A table lists its entries in the order in which their keys were first inserted, and no key twice.
What a table means is its look-up function `get?`; the order of the entries is the order in which
they are visited, and two tables are equal when they hold equal values under the same keys,
whatever their orders. Each operation has one equation for `get?`. -/
namespace LiveConfig

/-- Entries in which `key` holds `value`, in place if the key is there and at the end if not. -/
def Table.put {α : Type} (key : String) (value : α) : List (String × α) → List (String × α)
  | [] => [(key, value)]
  | (k, v) :: rest => if k = key then (key, value) :: rest else (k, v) :: put key value rest

theorem Table.mem_keys_put {α : Type} {key k : String} {value : α} {es : List (String × α)} :
    k ∈ (put key value es).map Prod.fst ↔ k = key ∨ k ∈ es.map Prod.fst := by
  induction es with
  | nil => simp [put]
  | cons e rest ih =>
    obtain ⟨k', v'⟩ := e
    by_cases h : k' = key
    · subst h; simp [put]
    · simp only [put, if_neg h, List.map_cons, List.mem_cons, ih]
      constructor
      · rintro (h | h | h) <;> simp [h]
      · rintro (h | h | h) <;> simp [h]

theorem Table.nodup_put {α : Type} {key : String} {value : α} {es : List (String × α)}
    (h : (es.map Prod.fst).Nodup) : ((put key value es).map Prod.fst).Nodup := by
  induction es with
  | nil => simp [put]
  | cons e rest ih =>
    obtain ⟨k', v'⟩ := e
    simp only [List.map_cons, List.nodup_cons] at h
    by_cases hk : k' = key
    · subst hk
      simp only [put, if_true, List.map_cons, List.nodup_cons]
      exact h
    · simp only [put, if_neg hk, List.map_cons, List.nodup_cons]
      refine ⟨fun hm => ?_, ih h.2⟩
      rcases mem_keys_put.mp hm with rfl | hm
      · exact hk rfl
      · exact h.1 hm

theorem Table.nodup_filter {α : Type} {p : String × α → Bool} {es : List (String × α)}
    (h : (es.map Prod.fst).Nodup) : ((es.filter p).map Prod.fst).Nodup :=
  List.Pairwise.sublist (List.Sublist.map _ List.filter_sublist) h

structure Table (α : Type) where
  entries : List (String × α)
  nodup : (entries.map Prod.fst).Nodup

namespace Table

variable {α : Type}

def empty : Table α := ⟨[], by simp⟩

instance : Inhabited (Table α) := ⟨empty⟩

def get? (t : Table α) (key : String) : Option α := t.entries.lookup key

def contains (t : Table α) (key : String) : Bool := (t.get? key).isSome

def insert (t : Table α) (key : String) (value : α) : Table α :=
  ⟨put key value t.entries, nodup_put t.nodup⟩

def erase (t : Table α) (key : String) : Table α :=
  ⟨t.entries.filter (·.1 ≠ key), nodup_filter t.nodup⟩

/-- Inserts entries one after another: of two with one key the later stays. -/
def insertAll (t : Table α) (es : List (String × α)) : Table α :=
  es.foldl (fun t e => t.insert e.1 e.2) t

def ofList (es : List (String × α)) : Table α := empty.insertAll es

def keys (t : Table α) : List String := t.entries.map Prod.fst

def values (t : Table α) : List α := t.entries.map Prod.snd

def size (t : Table α) : Nat := t.entries.length

def isEmpty (t : Table α) : Bool := t.entries.isEmpty

/-- The same keys with values made from those of a table. -/
def map {β : Type} (f : α → β) (t : Table α) : Table β :=
  ⟨t.entries.map fun e => (e.1, f e.2), by
    rw [List.map_map]
    exact t.nodup⟩

/-- The same entries in another order. -/
def reorder (t : Table α) (es : List (String × α)) (moved : es.Perm t.entries) : Table α :=
  ⟨es, (moved.map Prod.fst).nodup_iff.mpr t.nodup⟩

/-- Keys in increasing order of code points, which is also the order of their UTF-8 bytes. -/
def sortedKeys (t : Table α) : List String := t.keys.mergeSort fun a b => a ≤ b

instance [BEq α] : BEq (Table α) where
  beq s t := s.size == t.size && s.entries.all fun e =>
    match t.get? e.1 with
    | some v => e.2 == v
    | none => false

theorem lookup_put (key k : String) (value : α) (es : List (String × α)) :
    (put key value es).lookup k = if k = key then some value else es.lookup k := by
  induction es with
  | nil => simp only [put, List.lookup_cons, List.lookup_nil]; split <;> simp_all
  | cons e rest ih =>
    obtain ⟨k', v'⟩ := e
    by_cases h : k' = key
    · subst h
      simp only [put, if_true, List.lookup_cons]
      by_cases hk : k = k'
      · simp [hk]
      · have : (k == k') = false := by simp [hk]
        simp [this, hk]
    · simp only [put, if_neg h, List.lookup_cons]
      by_cases hk : k = k'
      · subst hk; simp [h]
      · have : (k == k') = false := by simp [hk]
        simp [this, ih]

theorem lookup_filter_ne (key k : String) (es : List (String × α)) :
    (es.filter (·.1 ≠ key)).lookup k = if k = key then none else es.lookup k := by
  induction es with
  | nil => simp
  | cons e rest ih =>
    obtain ⟨k', v'⟩ := e
    by_cases h : k' = key
    · subst h
      by_cases hk : k = k'
      · subst hk; simpa using ih
      · have : (k == k') = false := by simp [hk]
        simpa [List.lookup_cons, this, hk] using ih
    · by_cases hk : k = k'
      · subst hk; simp [h]
      · have : (k == k') = false := by simp [hk]
        simpa [List.lookup_cons, h, this] using ih

@[simp] theorem get?_empty (k : String) : (empty : Table α).get? k = none := rfl

@[simp] theorem get?_insert (t : Table α) (key k : String) (value : α) :
    (t.insert key value).get? k = if k = key then some value else t.get? k :=
  lookup_put key k value t.entries

@[simp] theorem get?_erase (t : Table α) (key k : String) :
    (t.erase key).get? k = if k = key then none else t.get? k :=
  lookup_filter_ne key k t.entries

theorem lookup_map {β : Type} (f : α → β) (key : String) (es : List (String × α)) :
    (es.map fun e => (e.1, f e.2)).lookup key = (es.lookup key).map f := by
  induction es with
  | nil => rfl
  | cons e es ih =>
    rw [List.map_cons, List.lookup_cons, List.lookup_cons, ih]
    cases key == e.1 <;> rfl

theorem get?_map {β : Type} (f : α → β) (t : Table α) (key : String) :
    (t.map f).get? key = (t.get? key).map f :=
  lookup_map f key t.entries

theorem mem_entries_of_get? {t : Table α} {key : String} {value : α}
    (found : t.get? key = some value) : (key, value) ∈ t.entries := by
  obtain ⟨before, after, entries, _⟩ := List.lookup_eq_some_iff.mp found
  rw [entries]
  exact List.mem_append_right before List.mem_cons_self

theorem get?_of_mem_entries {t : Table α} {key : String} {value : α}
    (member : (key, value) ∈ t.entries) : t.get? key = some value := by
  obtain ⟨before, after, entries⟩ := List.append_of_mem member
  have nodup := t.nodup
  rw [entries, List.map_append, List.map_cons] at nodup
  refine List.lookup_eq_some_iff.mpr ⟨before, after, entries, fun e earlier => ?_⟩
  have apart := (List.nodup_append.mp nodup).2.2 e.1 (List.mem_map_of_mem earlier) key
    List.mem_cons_self
  simpa only [bne_iff_ne] using apart.symm

theorem mem_keys_iff {t : Table α} {key : String} : key ∈ t.keys ↔ (t.get? key).isSome = true := by
  rw [Option.isSome_iff_exists]
  constructor
  · intro member
    obtain ⟨⟨_, value⟩, entry, rfl⟩ := List.mem_map.mp member
    exact ⟨value, get?_of_mem_entries entry⟩
  · rintro ⟨value, found⟩
    exact List.mem_map_of_mem (mem_entries_of_get? found)

/-- Entries made from values that know their keys. -/
theorem lookup_keyed (key : α → String) (values : List α) (k : String) :
    (values.map fun v => (key v, v)).lookup k = values.find? fun v => key v = k := by
  induction values with
  | nil => rfl
  | cons v values ih =>
    rw [List.map_cons, List.lookup_cons, List.find?_cons, ih]
    by_cases same : k = key v
    · simp [same]
    · have apart : (k == key v) = false := by simp [same]
      simp [apart, Ne.symm same]

/-- Of the entries for a key the last decides. -/
theorem get?_insertAll (t : Table α) (es : List (String × α)) (k : String) :
    (t.insertAll es).get? k = (es.reverse.lookup k).or (t.get? k) := by
  induction es generalizing t with
  | nil => rfl
  | cons e es ih =>
    obtain ⟨key, value⟩ := e
    have rest := ih (t.insert key value)
    rw [get?_insert] at rest
    simp only [List.reverse_cons, List.lookup_append]
    change ((t.insert key value).insertAll es).get? k = _
    rw [rest]
    by_cases same : k = key
    · subst same
      cases es.reverse.lookup k <;> simp
    · have apart : (k == key) = false := by simp [same]
      cases es.reverse.lookup k <;> simp [List.lookup_cons, apart, same]

/-- No order matters where no key occurs twice. -/
theorem lookup_reverse {es : List (String × α)} (nodup : (es.map Prod.fst).Nodup) (k : String) :
    es.reverse.lookup k = es.lookup k := by
  induction es with
  | nil => rfl
  | cons e es ih =>
    obtain ⟨key, value⟩ := e
    simp only [List.map_cons, List.nodup_cons] at nodup
    rw [List.reverse_cons, List.lookup_append, ih nodup.2]
    by_cases same : k = key
    · subst same
      have absent : es.lookup k = none := by
        rw [List.lookup_eq_none_iff]
        intro p member
        simp only [bne_iff_ne, ne_eq]
        rintro rfl
        exact nodup.1 (List.mem_map_of_mem member)
      simp [absent]
    · have apart : (k == key) = false := by simp [same]
      cases found : es.lookup k <;> simp [List.lookup_cons, apart, found]

/-- A table laid over another one. -/
theorem get?_overlay (t u : Table α) (k : String) :
    (t.insertAll u.entries).get? k = (u.get? k).or (t.get? k) := by
  rw [get?_insertAll, lookup_reverse u.nodup]
  rfl

end Table
end LiveConfig
